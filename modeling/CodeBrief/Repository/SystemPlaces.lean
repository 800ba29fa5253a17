/-
**Places of the system.**

Every system has some directories and devices in the same places, whatever else it holds.

* `SystemPlaces.node?` — what lies at a place of every system.
-/

import CodeBrief.Repository.Node

namespace CodeBrief.SystemPlaces

/-- The name that stands for the root of the system. -/
def root : String := "/"

/-- The directories below the root of every system, as the names that lead to them. -/
def directories : List (List String) :=
  [[], ["bin"], ["dev"], ["etc"], ["home"], ["lib"], ["media"], ["mnt"], ["opt"], ["proc"],
    ["root"], ["run"], ["sbin"], ["srv"], ["sys"], ["tmp"], ["usr"], ["usr", "bin"],
    ["usr", "lib"], ["usr", "local"], ["usr", "local", "bin"], ["usr", "local", "lib"],
    ["usr", "sbin"], ["usr", "share"], ["var"], ["var", "lib"], ["var", "log"], ["var", "tmp"]]

/-- The devices of every system, as the names that lead to them. -/
def devices : List (List String × SpecialFile) :=
  [(["dev", "full"], .full), (["dev", "null"], .null), (["dev", "random"], .random),
    (["dev", "urandom"], .random), (["dev", "zero"], .zero)]

/-- What lies at a place of every system. -/
def node? : List String → Option Node
  | [] => none
  | start :: names =>
    if start ≠ root then none
    else if directories.contains names then some .directory
    else (devices.lookup names).map .special

end CodeBrief.SystemPlaces
