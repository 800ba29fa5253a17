/-
**What a memory keeps of its history.**

A memory keeps lists that are cut to a length after every call, and no history. All that it holds is
still told by the whole history, as if nothing had ever been cut:

* `Memory.Call`, `Memory.run` — what is done with a memory, and memories after some calls;
* `Memory.exchanges`, `Memory.touches` — the exchanges of a history, and the files that it touches,
  one touch after another;
* `Memory.ShowsDecision`, `Memory.isDecision_iff` — what it takes for an exchange to be a decision;
* `Memory.Remembers` — how a memory is told by its history; `Remembers.after` is the step and
  `remembers_run` the run;
* `run_tellsHistory` — all this for a memory that begins empty, with what follows for two limits.

Two facts carry the run. What is cut off a log of conversations would be cut off later as well
(`lastOf_concat`). A file that has fallen off the recent files is, when it is touched again, as good
as new: touching a file before and after a cut comes to the same (`pushRecent_take`), and touching
files one after another leaves each at the place of its last touch (`foldl_pushRecent`).
-/

import CodeBrief.Proofs.FirstOccurrences
import CodeBrief.Proofs.Ledger
import CodeBrief.Proofs.Text.Occurrences
import CodeBrief.Session.Memory

namespace CodeBrief.Memory

/-! ### Calls -/

/-- What is done with a memory. -/
inductive Call where
  /-- An exchange is remembered. -/
  | record (now : Moment) (exchange : Exchange)
  /-- A file is touched. -/
  | touch (path : String)
  /-- The focus is set or cleared. -/
  | setFocus (focus : Option String)

/-- A memory after a call. -/
def after (memory : Memory) : Call → Memory
  | .record now exchange => memory.record now exchange
  | .touch path => memory.touch path
  | .setFocus focus => memory.setFocus focus

/-- A memory after some calls. -/
def run (memory : Memory) (calls : List Call) : Memory :=
  calls.foldl after memory

/-! ### Histories -/

/-- The exchange of a call, if it has one, and its moment. -/
def Call.exchange? : Call → Option (Moment × Exchange)
  | .record now exchange => some (now, exchange)
  | _ => none

/-- The files that a call touches. -/
def Call.touches : Call → List String
  | .record _ exchange => exchange.touched
  | .touch path => [path]
  | .setFocus _ => []

/-- The focus that a call sets, if it does. -/
def Call.focus? : Call → Option (Option String)
  | .setFocus focus => some focus
  | _ => none

/-- The exchanges of a history. -/
def exchanges (calls : List Call) : List (Moment × Exchange) :=
  calls.filterMap Call.exchange?

/-- The files that a history touches, one touch after another. -/
def touches (calls : List Call) : List String :=
  calls.flatMap Call.touches

/-- The conversation that an exchange leaves behind. -/
def conversationOf (entry : Moment × Exchange) : Conversation :=
  ⟨entry.2.query, entry.2.response, entry.1, entry.2.context⟩

/-- The decision that an exchange leaves behind. -/
def decisionOf (entry : Moment × Exchange) : Decision :=
  ⟨entry.2.query, entry.2.response, entry.1, entry.2.impact⟩

/-- A word that shows a decision occurs in the query or the response of an exchange, in lower
case. -/
def ShowsDecision (exchange : Exchange) : Prop :=
  ∃ word ∈ decisionWords, word.toList <:+: Text.lower exchange.query.toList ∨
    word.toList <:+: Text.lower exchange.response.toList

theorem isDecision_iff {exchange : Exchange} :
    exchange.isDecision = true ↔ ShowsDecision exchange := by
  simp [Exchange.isDecision, ShowsDecision, Text.occursIn_iff]

instance (exchange : Exchange) : Decidable (ShowsDecision exchange) :=
  decidable_of_iff _ isDecision_iff

/-- The names of the preferences, and their signs. -/
def preferenceSigns : List (String × String) :=
  [("prefer_const", "const"), ("prefer_async", "async/await")]

/-- Some response of a history contains a sign of the preference `name`. -/
def Shows (calls : List Call) (name : String) : Prop :=
  ∃ sign, (name, sign) ∈ preferenceSigns ∧
    ∃ entry ∈ exchanges calls, Text.contains entry.2.response sign = true

/-- The focus that was set last. -/
def lastFocus (calls : List Call) : Option String :=
  ((calls.filterMap Call.focus?).getLast?).join

/-- A memory with some limits holds what the history `calls` tells. -/
structure Remembers (limits : MemoryLimits) (calls : List Call) (memory : Memory) : Prop where
  /-- The limits stay as they are. -/
  sameLimits : memory.limits = limits
  /-- The conversations are the last ones. -/
  conversations : memory.conversations <:+ (exchanges calls).map conversationOf
  /-- There are as many as the limit allows. -/
  conversationCount : memory.conversations.length =
    min (exchanges calls).length limits.conversations
  /-- The recent files are those touched, from the last touch back, each at its first place. -/
  recentFiles : memory.recentFiles = (touches calls).reverse.eraseDups.take limits.recentFiles
  /-- The decisions are those exchanges that show one. -/
  decisions : memory.decisions =
    ((exchanges calls).filter fun entry => ShowsDecision entry.2).map decisionOf
  /-- A preference is set if some response shows it. -/
  preferences : ∀ name value,
    memory.preferences.get? name = some value ↔ value = true ∧ Shows calls name
  /-- The focus is the one that was set last. -/
  focus : memory.focus = lastFocus calls

/-! ### Cutting a log -/

theorem length_lastOf {α : Type} (limit : Nat) (xs : List α) :
    (lastOf limit xs).length = min xs.length limit := by
  unfold lastOf
  rw [List.length_drop]
  omega

/-- What is cut off would be cut off later as well. -/
theorem lastOf_concat {α : Type} (limit : Nat) (xs : List α) (x : α) :
    lastOf limit (lastOf limit xs ++ [x]) = lastOf limit (xs ++ [x]) := by
  have inside : xs.length - limit ≤ xs.length := Nat.sub_le _ _
  have kept : lastOf limit xs ++ [x] = (xs ++ [x]).drop (xs.length - limit) := by
    rw [List.drop_append_of_le_length inside]
    rfl
  have counted : (lastOf limit xs ++ [x]).length = min xs.length limit + 1 := by
    rw [List.length_append, length_lastOf, List.length_singleton]
  have whole : (xs ++ [x]).length = xs.length + 1 := by
    rw [List.length_append, List.length_singleton]
  show (lastOf limit xs ++ [x]).drop ((lastOf limit xs ++ [x]).length - limit) =
    (xs ++ [x]).drop ((xs ++ [x]).length - limit)
  rw [counted, whole, kept, List.drop_drop]
  congr 1
  omega

theorem eq_lastOf_iff {α : Type} {limit : Nat} {xs ys : List α} :
    ys = lastOf limit xs ↔ ys <:+ xs ∧ ys.length = min xs.length limit := by
  constructor
  · rintro rfl
    exact ⟨List.drop_suffix _ _, length_lastOf limit xs⟩
  · rintro ⟨suffix, counted⟩
    have other : lastOf limit xs <:+ xs := List.drop_suffix _ _
    have same : ys.length = (lastOf limit xs).length := by rw [counted, length_lastOf]
    exact (List.suffix_of_suffix_length_le suffix other same.le).eq_of_length same

/-! ### Touching files -/

theorem take_erase_take {α : Type} [BEq α] [LawfulBEq α] (count : Nat) (xs : List α) (x : α) :
    ((xs.take (count + 1)).erase x).take count = (xs.erase x).take count := by
  induction xs generalizing count with
  | nil => rfl
  | cons y rest ih =>
    rw [List.take_succ_cons]
    by_cases same : y = x
    · rw [same, List.erase_cons_head, List.erase_cons_head, List.take_take, Nat.min_self]
    · have apart : ¬ (y == x) = true := by simpa using same
      rw [List.erase_cons_tail apart, List.erase_cons_tail apart]
      cases count with
      | zero => rfl
      | succ count => rw [List.take_succ_cons, List.take_succ_cons, ih]

/-- **Touching a file before and after a cut comes to the same.** -/
theorem pushRecent_take (limit : Nat) (recent : List String) (path : String) :
    pushRecent limit (recent.take limit) path = (path :: recent.erase path).take limit := by
  unfold pushRecent
  cases limit with
  | zero => rfl
  | succ count => rw [List.take_succ_cons, List.take_succ_cons, take_erase_take]

/-- Files touched one after another stand at the places of their last touches. -/
theorem foldl_pushRecent (limit : Nat) (paths earlier : List String) :
    paths.foldl (pushRecent limit) (earlier.reverse.eraseDups.take limit) =
      (earlier ++ paths).reverse.eraseDups.take limit := by
  induction paths generalizing earlier with
  | nil => rw [List.foldl_nil, List.append_nil]
  | cons path rest ih =>
    have touched : pushRecent limit (earlier.reverse.eraseDups.take limit) path =
        (earlier ++ [path]).reverse.eraseDups.take limit := by
      rw [pushRecent_take, ← eraseDups_cons_eq_erase, List.reverse_concat]
    rw [List.foldl_cons, touched, ih, List.append_assoc, List.singleton_append]

/-! ### Noting preferences -/

section Preferences

variable {preferences : Ledger Bool} {name : String} {shown : Prop}

theorem get?_notePreference_iff
    (before : ∀ value, preferences.get? name = some value ↔ value = true ∧ shown)
    (response sign noted : String) (value : Bool) :
    (notePreference response sign noted preferences).get? name = some value ↔
      value = true ∧ (shown ∨ (name = noted ∧ Text.contains response sign = true)) := by
  unfold notePreference
  by_cases contained : Text.contains response sign = true
  · rw [if_pos contained, Ledger.get?_put]
    by_cases same : name = noted
    · simp [same, contained, eq_comm]
    · simp [same, before]
  · simp [contained, before]

/-- A preference is set once one of its signs has been looked for and found. -/
theorem get?_foldl_notePreference_iff
    (before : ∀ value, preferences.get? name = some value ↔ value = true ∧ shown)
    (response : String) (signs : List (String × String)) (value : Bool) :
    (signs.foldl (fun sofar entry => notePreference response entry.2 entry.1 sofar)
        preferences).get? name = some value ↔
      value = true ∧
        (shown ∨ ∃ sign, (name, sign) ∈ signs ∧ Text.contains response sign = true) := by
  induction signs generalizing preferences shown with
  | nil => simp [before]
  | cons entry rest ih =>
    obtain ⟨noted, sign⟩ := entry
    rw [List.foldl_cons, ih (get?_notePreference_iff before response sign noted)]
    have either : (∃ other, (name, other) ∈ (noted, sign) :: rest ∧
        Text.contains response other = true) ↔
        (name = noted ∧ Text.contains response sign = true) ∨
          ∃ other, (name, other) ∈ rest ∧ Text.contains response other = true := by
      constructor
      · rintro ⟨other, member, contained⟩
        rcases List.mem_cons.mp member with same | member
        · cases same
          exact Or.inl ⟨rfl, contained⟩
        · exact Or.inr ⟨other, member, contained⟩
      · rintro (⟨rfl, contained⟩ | ⟨other, member, contained⟩)
        · exact ⟨sign, List.mem_cons_self, contained⟩
        · exact ⟨other, List.mem_cons_of_mem _ member, contained⟩
    rw [either, or_assoc]

end Preferences

/-! ### One more call -/

section History

variable (calls : List Call) (call : Call)

theorem exchanges_concat :
    exchanges (calls ++ [call]) = exchanges calls ++ call.exchange?.toList := by
  unfold exchanges
  rw [List.filterMap_append]
  cases call <;> rfl

theorem touches_concat : touches (calls ++ [call]) = touches calls ++ call.touches := by
  unfold touches
  rw [List.flatMap_append, List.flatMap_singleton]

theorem lastFocus_concat : lastFocus (calls ++ [call]) = call.focus?.getD (lastFocus calls) := by
  unfold lastFocus
  rw [List.filterMap_append]
  cases call <;> simp [Call.focus?]

/-- A response shows the preference `name`. -/
def ShownBy (call : Call) (name : String) : Prop :=
  ∃ sign, (name, sign) ∈ preferenceSigns ∧
    ∃ entry ∈ call.exchange?, Text.contains entry.2.response sign = true

theorem shows_concat (name : String) :
    Shows (calls ++ [call]) name ↔ Shows calls name ∨ ShownBy call name := by
  unfold Shows ShownBy
  rw [exchanges_concat]
  simp only [List.mem_append, Option.mem_toList]
  constructor
  · rintro ⟨sign, known, entry, member | member, contained⟩
    · exact Or.inl ⟨sign, known, entry, member, contained⟩
    · exact Or.inr ⟨sign, known, entry, member, contained⟩
  · rintro (⟨sign, known, entry, member, contained⟩ | ⟨sign, known, entry, member, contained⟩)
    · exact ⟨sign, known, entry, Or.inl member, contained⟩
    · exact ⟨sign, known, entry, Or.inr member, contained⟩

end History

section Step

variable (memory : Memory) (call : Call)

theorem limits_after : (memory.after call).limits = memory.limits := by
  cases call <;> rfl

theorem recentFiles_after :
    (memory.after call).recentFiles =
      call.touches.foldl (pushRecent memory.limits.recentFiles) memory.recentFiles := by
  cases call <;> rfl

theorem focus_after : (memory.after call).focus = call.focus?.getD memory.focus := by
  cases call <;> rfl

theorem decisions_after :
    (memory.after call).decisions = memory.decisions ++
      (call.exchange?.toList.filter fun entry => ShowsDecision entry.2).map decisionOf := by
  cases call with
  | record now exchange =>
    show memory.decisions ++ (if exchange.isDecision then [decisionOf (now, exchange)] else []) = _
    by_cases shown : ShowsDecision exchange
    · rw [if_pos (isDecision_iff.mpr shown)]
      simp [Call.exchange?, shown]
    · rw [if_neg fun decides => shown (isDecision_iff.mp decides)]
      simp [Call.exchange?, shown]
  | touch path => exact (List.append_nil _).symm
  | setFocus focus => exact (List.append_nil _).symm

variable {memory}

theorem conversations_after {all : List Conversation}
    (cut : memory.conversations = lastOf memory.limits.conversations all) :
    (memory.after call).conversations =
      lastOf memory.limits.conversations (all ++ call.exchange?.toList.map conversationOf) := by
  cases call with
  | record now exchange =>
    show lastOf memory.limits.conversations
      (memory.conversations ++ [conversationOf (now, exchange)]) = _
    rw [cut, lastOf_concat]
    rfl
  | touch path => exact cut.trans (congrArg (lastOf _) (List.append_nil all).symm)
  | setFocus focus => exact cut.trans (congrArg (lastOf _) (List.append_nil all).symm)

theorem preferences_after {name : String} {shown : Prop}
    (before : ∀ value, memory.preferences.get? name = some value ↔ value = true ∧ shown)
    (value : Bool) :
    (memory.after call).preferences.get? name = some value ↔
      value = true ∧ (shown ∨ ShownBy call name) := by
  cases call with
  | record now exchange =>
    have noted : (memory.after (.record now exchange)).preferences =
        preferenceSigns.foldl (fun sofar entry =>
          notePreference exchange.response entry.2 entry.1 sofar) memory.preferences := rfl
    rw [noted, get?_foldl_notePreference_iff before]
    simp [ShownBy, Call.exchange?]
  | touch path => exact (before value).trans (by simp [ShownBy, Call.exchange?])
  | setFocus focus => exact (before value).trans (by simp [ShownBy, Call.exchange?])

end Step

/-! ### What is remembered -/

variable {limits : MemoryLimits} {calls : List Call} {memory : Memory}

theorem remembers_withLimits (limits : MemoryLimits) : (withLimits limits).Remembers limits [] where
  sameLimits := rfl
  conversations := List.suffix_rfl
  conversationCount := (Nat.zero_min _).symm
  recentFiles := List.take_nil.symm
  decisions := rfl
  preferences := by
    intro name value
    have nothing : ¬ Shows [] name := by
      rintro ⟨sign, -, entry, member, -⟩
      exact absurd member List.not_mem_nil
    simp only [nothing, and_false]
    exact ⟨nofun, nofun⟩
  focus := rfl

/-- One call. -/
theorem Remembers.after (remembers : memory.Remembers limits calls) (call : Call) :
    (memory.after call).Remembers limits (calls ++ [call]) := by
  have cut : memory.conversations =
      lastOf memory.limits.conversations ((exchanges calls).map conversationOf) := by
    refine eq_lastOf_iff.mpr ⟨remembers.conversations, ?_⟩
    rw [List.length_map, remembers.sameLimits]
    exact remembers.conversationCount
  have log : (memory.after call).conversations =
      lastOf limits.conversations ((exchanges (calls ++ [call])).map conversationOf) := by
    rw [conversations_after call cut, remembers.sameLimits, exchanges_concat, List.map_append]
  obtain ⟨conversations, counted⟩ := eq_lastOf_iff.mp log
  constructor
  case sameLimits => rw [limits_after, remembers.sameLimits]
  case conversations => exact conversations
  case conversationCount => rw [counted, List.length_map]
  case recentFiles =>
    rw [recentFiles_after, remembers.sameLimits, remembers.recentFiles, foldl_pushRecent,
      touches_concat]
  case decisions =>
    rw [decisions_after, remembers.decisions, exchanges_concat, List.filter_append,
      List.map_append]
  case preferences =>
    intro name value
    rw [preferences_after call (remembers.preferences name), shows_concat]
  case focus => rw [focus_after, remembers.focus, lastFocus_concat]

/-- Any calls. -/
theorem remembers_run (limits : MemoryLimits) (calls : List Call) :
    ((withLimits limits).run calls).Remembers limits calls := by
  induction calls using List.reverseRecOn with
  | nil => exact remembers_withLimits limits
  | append_singleton calls call ih =>
    have last : (withLimits limits).run (calls ++ [call]) =
        ((withLimits limits).run calls).after call := by
      unfold run
      rw [List.foldl_append]
      rfl
    rw [last]
    exact ih.after call

/-- **A memory holds what its whole history tells**, whatever its limits and whatever has been done
with it since it was empty. No recent file is listed twice; and with a greater limit, the recent
files after the same calls are these ones and further ones behind them. -/
theorem run_tellsHistory (limits : MemoryLimits) (calls : List Call) :
    ((withLimits limits).run calls).Remembers limits calls ∧
      ((withLimits limits).run calls).recentFiles.Nodup ∧
      ∀ wider : MemoryLimits, limits.recentFiles ≤ wider.recentFiles →
        ((withLimits limits).run calls).recentFiles <+:
          ((withLimits wider).run calls).recentFiles := by
  have remembers := remembers_run limits calls
  refine ⟨remembers, ?_, fun wider le => ?_⟩
  · rw [remembers.recentFiles]
    exact (nodup_eraseDups _).sublist (List.take_sublist _ _)
  · rw [remembers.recentFiles, (remembers_run wider calls).recentFiles]
    exact List.take_prefix_take_left le

/-- A file that has fallen off the list comes back to its front. -/
example : ((withLimits { recentFiles := 2 }).run
    [.touch "a", .touch "b", .touch "c", .touch "a"]).recentFiles = ["a", "c"] := rfl

end CodeBrief.Memory
