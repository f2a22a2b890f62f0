/-
# Settings

Settings come as a value of one general type, whatever notation they were written in, and are
read into the structures that the library works with.  A structure may be written as a record, in
which fields may be missing and others are passed over, or as a list of its first fields.
-/
namespace SessionServer

/-- A value in some notation for settings. -/
inductive Setting where
  | null
  | bool (b : Bool)
  /-- A whole number that is not negative. -/
  | nat (n : Nat)
  /-- Any other number. -/
  | number
  | text (s : String)
  | list (items : List Setting)
  /-- Values by their names. -/
  | record (entries : List (String × Setting))
deriving Inhabited, Repr

namespace Setting

/-! ### Single values -/

/-- A number of at most 64 bits. -/
def nat? : Setting → Option Nat
  | nat n => if n < UInt64.size then some n else none
  | _ => none

/-- A truth value. -/
def bool? : Setting → Option Bool
  | bool b => some b
  | _ => none

/-- A text. -/
def text? : Setting → Option String
  | text s => some s
  | _ => none

/-- A value that may also be absent. -/
def optional {α : Type} (read : Setting → Option α) : Setting → Option (Option α)
  | null => some none
  | s => (read s).map some

/-- A tag: a text, or a record that has the tag as its only name and nothing under it. -/
def tag? : Setting → Option String
  | text s => some s
  | record [(s, null)] => some s
  | _ => none

/-- The one of some choices whose tag is written. -/
def choice? {α : Type} (choices : List α) (tag : α → String) (s : Setting) : Option α :=
  s.tag?.bind fun name => choices.find? fun c => tag c = name

/-! ### Structures -/

/-- The fields that are written of a structure with fields of the given names. -/
def fields? (names : List String) : Setting → Option (List (String × Setting))
  | record entries => some entries
  | list items => if items.length ≤ names.length then some (names.zip items) else none
  | _ => none

/-- One field of a structure. -/
def field? {α : Type} (fields : List (String × Setting)) (name : String)
    (read : Setting → Option α) (default : α) : Option α :=
  match fields.lookup name with
  | some s => read s
  | none => some default

end Setting

end SessionServer
