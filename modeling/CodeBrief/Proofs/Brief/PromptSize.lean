/-
**A prompt is no longer than its payload.**

The prompt and the payload are two texts of one brief. The payload holds all that the prompt holds,
each part as a member of an object, and the names and the punctuation of these members outweigh what
the prompt puts around the parts. The comparison goes part by part, each line with the character
after it on one side, and a JSON value on the other.

* `linesSize` — what some lines take below each other; `length_joinLines_le` says that it is enough.
* `le_size_object`, `length_commaList_le_size` — what objects and lists of texts take at least.
* `linesSize_sectionLines_le` — a section with some lines for each item of a list.
* `linesSize_flatMap_fileLines_le` — the files. A file shows the imports that the payload holds
  among the dependencies; as the files are distinct, no entry of these is charged twice.
* `length_prompt_le` — the whole prompt.
-/

import CodeBrief.Brief.Prompt
import CodeBrief.Proofs.Brief.Size
import CodeBrief.Proofs.Ledger
import Mathlib.Data.List.Perm.Subperm

namespace CodeBrief

open Json

/-! ### Texts and lines -/

/-- Texts with a separator between neighbours. -/
theorem length_intercalate_le (separator : String) (parts : List String) :
    (separator.intercalate parts).toList.length ≤
      (parts.map fun part => part.toList.length + separator.toList.length).sum := by
  induction parts with
  | nil => exact Nat.zero_le _
  | cons part rest ih =>
    cases rest with
    | nil => simp
    | cons next rest =>
      rw [String.intercalate_cons_cons, List.map_cons, List.sum_cons]
      simp only [String.toList_append, List.length_append]
      omega

/-- The characters of some lines, with one more after each line. -/
def linesSize (lines : List String) : Nat :=
  (lines.map fun line => line.toList.length + 1).sum

@[simp] theorem linesSize_nil : linesSize [] = 0 := rfl

@[simp] theorem linesSize_cons (line : String) (lines : List String) :
    linesSize (line :: lines) = line.toList.length + 1 + linesSize lines := by
  unfold linesSize
  rw [List.map_cons, List.sum_cons]

@[simp] theorem linesSize_append (lines lines' : List String) :
    linesSize (lines ++ lines') = linesSize lines + linesSize lines' := by
  unfold linesSize
  rw [List.map_append, List.sum_append]

theorem linesSize_flatMap {α : Type} (linesOf : α → List String) (items : List α) :
    linesSize (items.flatMap linesOf) = (items.map fun item => linesSize (linesOf item)).sum := by
  induction items with
  | nil => rfl
  | cons item rest ih => rw [List.flatMap_cons, linesSize_append, ih, List.map_cons, List.sum_cons]

/-- Lines below each other. -/
theorem length_joinLines_le (lines : List String) :
    (joinLines lines).toList.length ≤ linesSize lines :=
  length_intercalate_le "\n" lines

/-! ### Values from below -/

/-- Each character of a text takes one at least. -/
theorem le_textSize (text : String) : text.toList.length + 2 ≤ textSize text := by
  have each : (text.toList.map charSize).length ≤ (text.toList.map charSize).sum :=
    List.length_le_sum_of_one_le _ (List.forall_mem_map.mpr fun c _ => charSize_pos c)
  rw [List.length_map] at each
  rw [textSize_eq]
  exact Nat.add_le_add_right each 2

/-- An object takes the names and values of its members, and four characters around each name. -/
theorem le_size_object (members : List (String × Value)) :
    (members.map fun member => member.1.toList.length + 4 + member.2.size).sum + 1 ≤
      (ValueOf.object members).size := by
  have each : (members.map fun member => member.1.toList.length + 4 + member.2.size).sum ≤
      (members.map fun member => textSize member.1 + member.2.size + 2).sum := by
    refine List.sum_le_sum fun member _ => ?_
    have name := le_textSize member.1
    omega
  rw [size_object]
  omega

/-- Texts between commas take no more than a list of texts. -/
theorem length_commaList_le_size (texts : List String) :
    (commaList texts).toList.length ≤ (ValueOf.ofTexts texts).size := by
  have row := length_intercalate_le ", " texts
  have each : (texts.map fun text => text.toList.length + ", ".toList.length).sum ≤
      ((texts.map .string : List Value).map fun item => item.size + 1).sum := by
    rw [List.map_map]
    refine List.sum_le_sum fun text _ => ?_
    have size := le_textSize text
    simp only [Function.comp_apply, size_string, String.reduceToList, List.length_cons,
      List.length_nil]
    omega
  unfold commaList ValueOf.ofTexts
  rw [size_array]
  omega

theorem two_le_size_ofTexts (texts : List String) : 2 ≤ (ValueOf.ofTexts texts).size := by
  unfold ValueOf.ofTexts
  rw [size_array]
  omega

/-- A text that is shown unless it is missing or empty. -/
theorem nonEmpty?_cases (text : Option String) :
    (nonEmpty? text = none ∧ 2 ≤ (ValueOf.ofText? text).size) ∨
      ∃ shown, nonEmpty? text = some shown ∧
        shown.toList.length + 2 ≤ (ValueOf.ofText? text).size := by
  cases text with
  | none => exact Or.inl ⟨rfl, by simp [ValueOf.ofText?]⟩
  | some text =>
    have size : text.toList.length + 2 ≤ (ValueOf.ofText? (some text)).size := by
      rw [ValueOf.ofText?, size_string]
      exact le_textSize text
    by_cases empty : text.isEmpty = true
    · exact Or.inl ⟨if_pos empty, by omega⟩
    · exact Or.inr ⟨text, if_neg empty, size⟩

/-- A text, or a word in its place. -/
theorem length_getD_nonEmpty?_le (text : Option String) (word : String) :
    ((nonEmpty? text).getD word).toList.length + 2 ≤
      (ValueOf.ofText? text).size + word.toList.length := by
  rcases nonEmpty?_cases text with ⟨same, size⟩ | ⟨shown, same, size⟩
  · rw [same, Option.getD_none]
    omega
  · rw [same, Option.getD_some]
    omega

/-! ### Sections -/

namespace Brief

/-- A section takes its heading and a blank line on top of its lines. -/
theorem linesSize_sectionLines_le (heading : String) (lines : List String) :
    linesSize (sectionLines heading lines) ≤ heading.toList.length + linesSize lines + 2 := by
  unfold sectionLines
  split
  · exact Nat.zero_le _
  · rw [linesSize_append, linesSize_cons, linesSize_cons, linesSize_nil, String.toList_empty,
      List.length_nil]
    omega

/-- **A section with some lines for each item** takes its heading on top of what the list of the
items takes. -/
theorem linesSize_sectionLines_flatMap_le {α : Type} (heading : String) (write : α → Value)
    (linesOf : α → List String) {items : List α}
    (each : ∀ item ∈ items, linesSize (linesOf item) ≤ (write item).size + 1) :
    linesSize (sectionLines heading (items.flatMap linesOf)) ≤
      heading.toList.length + (ValueOf.ofList write items).size + 1 := by
  cases items with
  | nil => exact Nat.zero_le _
  | cons item rest =>
    have whole := linesSize_sectionLines_le heading ((item :: rest).flatMap linesOf)
    have sums : ((item :: rest).map fun item => linesSize (linesOf item)).sum ≤
        ((item :: rest).map fun item => (write item).size + 1).sum := List.sum_le_sum each
    rw [linesSize_flatMap] at whole
    rw [size_ofList]
    omega

/-- The lines about the query and the project. -/
theorem linesSize_headLines_le (brief : Brief) :
    linesSize brief.headLines ≤
      textSize brief.query + brief.project.toJson.size + brief.intent.toJson.size + 11 := by
  have query := le_textSize brief.query
  have name := length_getD_nonEmpty?_le brief.project.name "unknown"
  have language := length_getD_nonEmpty?_le brief.project.language "unknown"
  have framework := length_getD_nonEmpty?_le brief.project.framework "none"
  have kind := le_textSize brief.intent.kind.name
  have scope := le_textSize brief.intent.scope.name
  have targets := two_le_size_ofTexts brief.intent.targets
  have project : _ ≤ brief.project.toJson.size := le_size_object _
  have intent : _ ≤ brief.intent.toJson.size := le_size_object _
  simp only [List.map_cons, List.map_nil, List.sum_cons, List.sum_nil, String.reduceToList,
    List.length_cons, List.length_nil, size_string] at name language framework project intent
  unfold headLines
  rcases nonEmpty?_cases brief.project.description with
    ⟨noDescription, description⟩ | ⟨shown, isShown, description⟩ <;>
  rcases nonEmpty?_cases brief.intent.action with
    ⟨noAction, action⟩ | ⟨shown', isShown', action⟩ <;>
  simp only [*, linesSize_append, linesSize_cons, linesSize_nil, String.toList_append,
    List.length_append, String.toList_empty, String.reduceToList, List.length_cons,
    List.length_nil] <;>
  omega

/-- The lines about the patterns, where no confidence is long. -/
theorem linesSize_patternLines_le {brief : Brief}
    (short : ∀ pattern ∈ brief.patterns, (Binary64.fixed 2 pattern.confidence).length ≤ 4) :
    linesSize brief.patternLines ≤
      "## Architecture".toList.length +
        (ValueOf.ofList ArchitecturalPattern.toJson brief.patterns).size + 1 := by
  unfold patternLines
  rw [List.map_eq_flatMap]
  refine linesSize_sectionLines_flatMap_le _ _ _ fun pattern member => ?_
  have kind := le_textSize pattern.kind
  have confidence := short pattern member
  have evidence := two_le_size_ofTexts pattern.evidence
  have size : _ ≤ pattern.toJson.size := le_size_object _
  simp only [List.map_cons, List.map_nil, List.sum_cons, List.sum_nil, String.reduceToList,
    List.length_cons, List.length_nil, size_string] at size
  simp only [linesSize_cons, linesSize_nil, String.toList_append, String.toList_ofList,
    List.length_append, String.reduceToList, List.length_cons, List.length_nil]
  omega

/-- The lines about the layout. -/
theorem linesSize_layoutLines_le (brief : Brief) :
    linesSize brief.layoutLines ≤ brief.layout.toJson.size := by
  have routes : linesSize (brief.layout.routes.map fun route => "- " ++ route.method ++ " " ++
      route.path) ≤ (brief.layout.routes.map fun route => route.toJson.size + 1).sum := by
    rw [List.map_eq_flatMap, linesSize_flatMap]
    refine List.sum_le_sum fun route _ => ?_
    have method := le_textSize route.method
    have path := le_textSize route.path
    have size : _ ≤ route.toJson.size := le_size_object _
    simp only [List.map_cons, List.map_nil, List.sum_cons, List.sum_nil, String.reduceToList,
      List.length_cons, List.length_nil, size_string] at size
    simp only [linesSize_cons, linesSize_nil, String.toList_append, List.length_append,
      String.reduceToList, List.length_cons, List.length_nil]
    omega
  have entryPoints : linesSize (if brief.layout.entryPoints.isEmpty then []
      else ["Entry points: " ++ commaList brief.layout.entryPoints]) ≤
        (ValueOf.ofTexts brief.layout.entryPoints).size + 15 := by
    have row := length_commaList_le_size brief.layout.entryPoints
    split
    · exact Nat.zero_le _
    · simp only [linesSize_cons, linesSize_nil, String.toList_append, List.length_append,
        String.reduceToList, List.length_cons, List.length_nil]
      omega
  have size : _ ≤ brief.layout.toJson.size := le_size_object _
  simp only [List.map_cons, List.map_nil, List.sum_cons, List.sum_nil, String.reduceToList,
    List.length_cons, List.length_nil, size_array, List.map_map, Function.comp_def] at size
  refine (linesSize_sectionLines_le "## Structure" _).trans ?_
  rw [linesSize_append]
  simp only [String.reduceToList, List.length_cons, List.length_nil]
  omega

theorem linesSize_functionLines_le (record : FunctionRecord) :
    linesSize (functionLines record) ≤ record.toJson.size + 1 := by
  have name := le_textSize record.name
  have path := le_textSize record.path
  have params := length_commaList_le_size record.params
  have body := le_textSize record.body
  have size : _ ≤ record.toJson.size := le_size_object _
  have complexity : (intText record.complexity).toList.length =
      (ValueOf.int record.complexity).size := by
    rw [size_int, intText, String.toList_ofList]
  simp only [List.map_cons, List.map_nil, List.sum_cons, List.sum_nil, String.reduceToList,
    List.length_cons, List.length_nil, size_string] at size
  unfold functionLines FunctionRecord.key recordKey
  split <;>
  simp only [linesSize_append, linesSize_cons, linesSize_nil, String.toList_append,
    List.length_append, String.reduceToList, List.length_cons, List.length_nil] <;>
  omega

theorem linesSize_classLines_le (record : ClassRecord) :
    linesSize (classLines record) ≤ record.toJson.size + 1 := by
  have name := le_textSize record.name
  have path := le_textSize record.path
  have methods := length_commaList_le_size record.methods
  have properties := two_le_size_ofTexts record.properties
  have summary := length_getD_nonEmpty?_le record.summary ("methods: " ++ commaList record.methods)
  have size : _ ≤ record.toJson.size := le_size_object _
  simp only [String.toList_append, List.length_append, String.reduceToList, List.length_cons,
    List.length_nil] at summary
  simp only [List.map_cons, List.map_nil, List.sum_cons, List.sum_nil, String.reduceToList,
    List.length_cons, List.length_nil, size_string] at size
  unfold classLines ClassRecord.key recordKey
  rcases nonEmpty?_cases record.base with ⟨noBase, base⟩ | ⟨shown, isShown, base⟩ <;>
  simp only [*, linesSize_cons, linesSize_nil, String.toList_append, List.length_append,
    String.toList_empty, String.reduceToList, List.length_cons, List.length_nil] <;>
  omega

/-- The lines about the decisions. -/
theorem linesSize_decisionLines_le (brief : Brief) :
    linesSize brief.decisionLines ≤
      (ValueOf.ofOption Memory.Recollection.toJson brief.memory).size := by
  unfold decisionLines
  split
  · rename_i recollection remembered
    rw [remembered, List.map_eq_flatMap]
    have size : _ ≤ recollection.toJson.size := le_size_object _
    have queries := two_le_size_ofTexts recollection.queries
    simp only [List.map_cons, List.map_nil, List.sum_cons, List.sum_nil, String.reduceToList,
      List.length_cons, List.length_nil] at size
    refine (linesSize_sectionLines_flatMap_le _ Decision.toJson _ fun decision _ => ?_).trans ?_
    · have impact := le_textSize decision.impact.name
      have description := le_textSize decision.description
      have size : _ ≤ decision.toJson.size := le_size_object _
      simp only [List.map_cons, List.map_nil, List.sum_cons, List.sum_nil, String.reduceToList,
        List.length_cons, List.length_nil, size_string] at size
      simp only [linesSize_cons, linesSize_nil, String.toList_append, List.length_append,
        String.reduceToList, List.length_cons, List.length_nil]
      omega
    · show _ ≤ recollection.toJson.size
      unfold ValueOf.ofList
      simp only [String.reduceToList, List.length_cons, List.length_nil]
      omega
  · exact Nat.zero_le _

/-! ### Files -/

/-- The lines about a file: the imports are those of its entry among the dependencies. -/
theorem linesSize_fileLines_le (brief : Brief) (file : SelectedFile) :
    linesSize (brief.fileLines file) ≤ file.toJson.size + 1 +
      ((brief.dependencies.get? file.path).map fun facts => facts.toJson.size).getD 0 := by
  have path := le_textSize file.path
  have content := le_textSize file.content
  have mark : (cutMark file).toList.length ≤ 13 := by
    unfold cutMark
    split <;> simp
  have size : _ ≤ file.toJson.size := le_size_object _
  simp only [List.map_cons, List.map_nil, List.sum_cons, List.sum_nil, String.reduceToList,
    List.length_cons, List.length_nil, size_string] at size
  unfold fileLines
  rw [linesSize_append, linesSize_append]
  cases brief.dependencies.get? file.path with
  | none =>
    simp only [linesSize_cons, linesSize_nil, String.toList_append, List.length_append,
      String.toList_empty, String.reduceToList, List.length_cons, List.length_nil]
    omega
  | some facts =>
    have row := length_commaList_le_size facts.imports
    have known : _ ≤ facts.toJson.size := le_size_object _
    simp only [List.map_cons, List.map_nil, List.sum_cons, List.sum_nil, String.reduceToList,
      List.length_cons, List.length_nil] at known
    rw [Option.map_some, Option.getD_some]
    dsimp only
    split <;>
    simp only [linesSize_cons, linesSize_nil, String.toList_append, List.length_append,
      String.toList_empty, String.reduceToList, List.length_cons, List.length_nil] <;>
    omega

/-- Distinct files are charged for distinct entries among the dependencies. -/
theorem sum_dependencies_le {brief : Brief}
    (distinct : (brief.files.map SelectedFile.path).Nodup) :
    (brief.files.map fun file =>
        ((brief.dependencies.get? file.path).map fun facts => facts.toJson.size).getD 0).sum ≤
      (ValueOf.object (brief.dependencies.mapValues fun _ facts => facts.toJson).entries).size := by
  obtain ⟨middle, perm, sublist⟩ := brief.dependencies.entriesFor_subperm distinct
  have members : _ ≤ (ValueOf.object
    (brief.dependencies.mapValues fun _ facts => facts.toJson).entries).size := le_size_object _
  calc (brief.files.map fun file =>
          ((brief.dependencies.get? file.path).map fun facts => facts.toJson.size).getD 0).sum
      = ((brief.dependencies.entriesFor (brief.files.map SelectedFile.path)).map fun entry =>
          entry.2.toJson.size).sum := by
        have charged := brief.dependencies.sum_get?_eq (fun facts => facts.toJson.size)
          (brief.files.map SelectedFile.path)
        rwa [List.map_map] at charged
    _ = (middle.map fun entry => entry.2.toJson.size).sum := (perm.map _).sum_eq.symm
    _ ≤ (brief.dependencies.entries.map fun entry => entry.2.toJson.size).sum :=
        (sublist.map _).sum_le_sum fun _ _ => Nat.zero_le _
    _ ≤ (((brief.dependencies.mapValues fun _ facts => facts.toJson).entries).map fun member =>
          member.1.toList.length + 4 + member.2.size).sum := by
        rw [Ledger.mapValues, List.map_map]
        exact List.sum_le_sum fun entry _ => Nat.le_add_left _ _
    _ ≤ _ := by omega

/-- The lines about the files. -/
theorem linesSize_flatMap_fileLines_le {brief : Brief}
    (distinct : (brief.files.map SelectedFile.path).Nodup) :
    linesSize (brief.files.flatMap brief.fileLines) ≤
      (ValueOf.ofList SelectedFile.toJson brief.files).size +
        (ValueOf.object (brief.dependencies.mapValues fun _ facts => facts.toJson).entries).size := by
  have each : (brief.files.map fun file => linesSize (brief.fileLines file)).sum ≤
      (brief.files.map fun file => file.toJson.size + 1 +
        ((brief.dependencies.get? file.path).map fun facts => facts.toJson.size).getD 0).sum :=
    List.sum_le_sum fun file _ => brief.linesSize_fileLines_le file
  have dependencies := sum_dependencies_le distinct
  rw [List.sum_map_add] at each
  rw [linesSize_flatMap, size_ofList]
  omega

/-! ### The whole prompt -/

/-- **A prompt is no longer than its payload.** -/
theorem length_prompt_le {brief : Brief} (distinct : (brief.files.map SelectedFile.path).Nodup)
    (short : ∀ pattern ∈ brief.patterns, (Binary64.fixed 2 pattern.confidence).length ≤ 4) :
    brief.prompt.toList.length ≤ brief.payload.size := by
  -- Each part is charged to the members that hold it. What the head and the headings take on top of
  -- that is made up for by the names of the members.
  have lines := length_joinLines_le brief.promptLines
  have head := brief.linesSize_headLines_le
  have patterns := linesSize_patternLines_le short
  have layout := brief.linesSize_layoutLines_le
  have files := linesSize_flatMap_fileLines_le distinct
  have functions := linesSize_sectionLines_flatMap_le "## Functions" FunctionRecord.toJson
    functionLines fun record (_ : record ∈ brief.functions) => linesSize_functionLines_le record
  have classes := linesSize_sectionLines_flatMap_le "## Classes" ClassRecord.toJson
    classLines fun record (_ : record ∈ brief.classes) => linesSize_classLines_le record
  have decisions := brief.linesSize_decisionLines_le
  have size : _ ≤ brief.payload.size := le_size_object _
  simp only [String.reduceToList, List.length_cons, List.length_nil] at patterns functions classes
  simp only [payloadMembers, List.map_cons, List.map_nil, List.sum_cons, List.sum_nil,
    String.reduceToList, List.length_cons, List.length_nil, size_string] at size
  unfold prompt
  simp only [promptLines, linesSize_append] at lines ⊢
  omega

end Brief

end CodeBrief
