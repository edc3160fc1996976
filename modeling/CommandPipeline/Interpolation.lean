import CommandPipeline.Bindings

/-! Variables in commands. A command is gone through once, from one dollar sign to the next. Behind each the
bound names are tried from the longest on, and the value of the first that fits is copied as it is. -/
namespace CommandPipeline

/-! ### Reading and storing -/

/-- No variable has this name. -/
structure Undeclared where
  name : String
  deriving DecidableEq, Repr

def Undeclared.message (e : Undeclared) : String := "undeclared variable: " ++ e.name

namespace Bindings

def read (b : Bindings) (name : String) : Except Undeclared String :=
  match b.get? name with
  | some value => .ok value
  | none => .error ⟨name⟩

/-- Replaces the value of a variable, and says if there is no such variable. No variable comes into being. -/
def store (b : Bindings) (name value : String) : Except Undeclared Unit × Bindings :=
  if b.contains name then (.ok (), b.insert name value) else (.error ⟨name⟩, b)

/-- Storing keeps the set of names. -/
theorem contains_store (b : Bindings) (name value other : String) :
    (b.store name value).2.contains other = b.contains other := by
  unfold store
  split
  · rename_i h
    exact contains_insert_of_contains h value other
  · rfl

/-- A value that cannot be stored changes nothing. -/
theorem store_of_error {b : Bindings} {name value : String} {e : Undeclared}
    (h : (b.store name value).1 = .error e) : (b.store name value).2 = b := by
  unfold store at h ⊢
  split at h
  · contradiction
  · rename_i hnone
    rw [if_neg hnone]

end Bindings

/-! ### Interpolation -/

/-- Whether a name is tried before another one: a name with more bytes is, and of two names with as many bytes
the one that comes first in their order. -/
def triedBefore (m n : String) : Bool :=
  n.utf8ByteSize < m.utf8ByteSize || (m.utf8ByteSize == n.utf8ByteSize && m ≤ n)

/-- Whether the text begins with the name. The empty name begins no text. -/
def isNameOf (text : List Char) (name : String) : Bool := name != "" && name.toList.isPrefixOf text

namespace Bindings

/-- The bound names in the order in which they are tried. -/
def triedNames (b : Bindings) : List String := b.names.mergeSort triedBefore

/-- What is left of a command becomes: the text up to the next dollar sign, then the value of the first of the
names that follows the sign, or else the sign itself, and what the text behind it becomes. -/
def interpolateRest (b : Bindings) (names : List String) (rest : List Char) : List Char :=
  match h : rest.dropWhile (· != '$') with
  | [] => rest
  | _ :: after =>
    have hshorter : after.length < rest.length := by
      have hle := (List.dropWhile_suffix (l := rest) (· != '$')).length_le
      rw [h] at hle
      exact hle
    rest.takeWhile (· != '$') ++
      match names.find? (isNameOf after) with
      | some name => ((b.get? name).getD "").toList ++ b.interpolateRest names (after.drop name.length)
      | none => '$' :: b.interpolateRest names after
termination_by rest.length
decreasing_by
  · rw [List.length_drop]
    omega
  · exact hshorter

/-- The command with the value of each variable in place of the variable. -/
def interpolate (b : Bindings) (command : String) : String :=
  String.ofList (b.interpolateRest b.triedNames command.toList)

end Bindings

end CommandPipeline
