import Placeholder.Path

/-!
# Verdicts on templates

A template that is not valid gives the list of its errors, which is never empty; one that is valid
gives the names of the macros that it uses.
-/

namespace Placeholder

/-- What is wrong at a place of a template. -/
structure ValidationError where
  message : String
  path : Path := []
  deriving DecidableEq

namespace ValidationError

/-- The error one step further from the root. -/
def prepend (error : ValidationError) (segment : Segment) : ValidationError :=
  { error with path := segment :: error.path }

/-- The path and the message, or the message alone at the root. -/
def text (error : ValidationError) : String :=
  if error.path = [] then error.message else error.path.text ++ ": " ++ error.message

end ValidationError

/-- Errors in the order in which they were found, of which there is at least one. -/
structure Errors where
  first : ValidationError
  others : List ValidationError := []
  deriving DecidableEq

namespace Errors

def toList (errors : Errors) : List ValidationError := errors.first :: errors.others

/-- The errors of a list, unless it is empty. -/
def ofList? : List ValidationError → Option Errors
  | [] => none
  | first :: others => some ⟨first, others⟩

/-- One error, at the root. -/
def ofMessage (message : String) : Errors := ⟨{ message }, []⟩

def length (errors : Errors) : Nat := errors.others.length + 1

/-- How many errors there are, and all of them. -/
def text (errors : Errors) : String :=
  toString errors.length ++ " validation error(s): "
    ++ "; ".intercalate (errors.toList.map ValidationError.text)

@[simp] theorem ofList?_toList (errors : Errors) : ofList? errors.toList = some errors := rfl

@[simp] theorem ofList?_eq_none {errors : List ValidationError} :
    ofList? errors = none ↔ errors = [] := by
  cases errors <;> simp [ofList?]

end Errors

/-- The names without those that came before. -/
def firstOccurrences (names : List String) : List String :=
  names.foldl (fun seen name => if name ∈ seen then seen else seen ++ [name]) []

theorem nodup_firstOccurrences (names : List String) : (firstOccurrences names).Nodup := by
  suffices h : ∀ seen : List String, seen.Nodup →
      (names.foldl (fun seen name => if name ∈ seen then seen else seen ++ [name]) seen).Nodup from
    h [] List.nodup_nil
  induction names with
  | nil => exact fun _ h => h
  | cons name rest ih =>
    intro seen h
    apply ih
    dsimp only
    split
    · exact h
    · next hn =>
      rw [List.nodup_append]
      exact ⟨h, by simp, fun a ha b hb e => by simp_all⟩

/-- The names of the macros that a valid template uses, in the order of their first use. -/
structure Approval where
  used : List String
  nodup : used.Nodup

namespace Approval

/-- The distinct names of a list. -/
def ofNames (names : List String) : Approval :=
  ⟨firstOccurrences names, nodup_firstOccurrences names⟩

/-- Whether the macro is used. -/
def uses (valid : Approval) (name : String) : Bool := valid.used.contains name

instance : Inhabited Approval := ⟨ofNames []⟩

end Approval

end Placeholder
