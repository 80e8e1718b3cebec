/-!
# TOML tables

Values, and tables under construction. Where a table was first mentioned decides what may still be
added to it: a table written in braces is closed, one that a header names must not be named again,
and one that is mentioned only on the way to something else can still get a header of its own,
unless it was mentioned in a dotted key.
-/

namespace Colloquy

/-- Where a table was first mentioned. -/
inductive TableOrigin where
  /-- By a header of its own, or as the whole document. -/
  | header
  /-- On the way to another header. -/
  | passed
  /-- On the way to the value of a dotted key. -/
  | dotted
  /-- In braces. -/
  | braces
  deriving DecidableEq, Repr, Inhabited

/-- A value of a document. Numbers with a point, dates and times have no value here. -/
inductive Toml where
  | string (text : String)
  | integer (value : Int)
  | float
  | boolean (value : Bool)
  | moment
  | array (items : List Toml)
  | table (origin : TableOrigin) (members : List (String × Toml))
  /-- Tables with headers in double brackets, at least one. -/
  | tables (elements : List (List (String × Toml)))
  deriving Inhabited

namespace Toml

/-- The members of a table. -/
abbrev Members := List (String × Toml)

/-- Put a value in place of the one with the same key, or at the end. -/
def put (key : String) (value : Toml) : Members → Members
  | [] => [(key, value)]
  | member :: rest =>
      if member.1 = key then (key, value) :: rest else member :: put key value rest

/-- Change the last of some tables. -/
def changeLast? (change : Members → Option Members) : List Members → Option (List Members)
  | [] => none
  | [last] => (change last).map fun changed => [changed]
  | first :: rest => (changeLast? change rest).map fun changed => first :: changed

/-- Whether a dotted key may lead through a table. -/
def TableOrigin.isPassable : TableOrigin → Bool
  | .passed | .dotted => true
  | .header | .braces => false

/-- Change the table at a path, through tables that are made on the way. A dotted key leads only
through tables that no header has named, a header through all but those in braces; both lead
through the last of several tables of one name. -/
def changeAt? (isDotted : Bool) (change : TableOrigin → Members → Option Members) :
    List String → TableOrigin → Members → Option Members
  | [], origin, members => change origin members
  | key :: path, _, members =>
      match members.lookup key with
      | none => do
          let origin : TableOrigin := if isDotted then .dotted else .passed
          return put key (.table origin (← changeAt? isDotted change path origin [])) members
      | some (.table origin inner) =>
          if origin = .braces || (isDotted && !TableOrigin.isPassable origin) then none
          else do
            return put key (.table origin (← changeAt? isDotted change path origin inner)) members
      | some (.tables elements) => do
          return put key (.tables (← changeLast? (changeAt? isDotted change path .header) elements))
            members
      | some _ => none

/-- Put a new value under a dotted key. The table it goes into must have been mentioned in dotted
keys only, unless the key has no dots. -/
def assign? (path : List String) (key : String) (value : Toml) (origin : TableOrigin)
    (members : Members) : Option Members :=
  changeAt? true
    (fun origin members =>
      if (origin == .dotted) == path.isEmpty || (members.lookup key).isSome then none
      else some (members ++ [(key, value)]))
    path origin members

/-- Give a table a header. -/
def openTable? (key : String) (_ : TableOrigin) (members : Members) : Option Members :=
  match members.lookup key with
  | none => some (put key (.table .header []) members)
  | some (.table .passed inner) => some (put key (.table .header inner) members)
  | some _ => none

/-- Start one more table of a name. -/
def openElement? (key : String) (_ : TableOrigin) (members : Members) : Option Members :=
  match members.lookup key with
  | none => some (put key (.tables [[]]) members)
  | some (.tables elements) => some (put key (.tables (elements ++ [[]])) members)
  | some _ => none

end Toml

end Colloquy
