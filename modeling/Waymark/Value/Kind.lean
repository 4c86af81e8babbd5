import Waymark.Value.Basic

/-! # Kinds of values

    A kind says which values a parameter, a result or an error may be, and how they are
    read from and written to JSON.

    A record has a shape: its fields with their kinds. A field of a single admitted text
    may be left out, since there is nothing to choose. A choice between shapes is made by
    one such field.
-/

namespace Waymark

/-- A kind of values. -/
inductive Kind where
  | any
  | nothing
  | bool
  | int
  | float
  | text
  /-- One text only. -/
  | literal (s : String)
  | list (of : Kind)
  /-- Dictionaries whose keys are texts. -/
  | dict (of : Kind)
  | optional (of : Kind)
  /-- Records of one shape. -/
  | record (shape : String) (fields : List (String × Kind))
  /-- Records of several shapes, which the literal of one field tells apart. -/
  | choice (tag : String) (shapes : List (String × List (String × Kind)))
  /-- Objects that have no written form. -/
  | foreign (name : String)

namespace Kind

mutual
/-- Can the values of the kind be written at all? -/
def isWritable : Kind → Bool
  | .foreign _ => false
  | .list k => k.isWritable
  | .dict k => k.isWritable
  | .optional k => k.isWritable
  | .record _ fields => areWritable fields
  | .choice _ shapes => areWritableShapes shapes
  | _ => true

/-- Can the values of all fields be written? -/
def areWritable : List (String × Kind) → Bool
  | [] => true
  | (_, k) :: rest => k.isWritable && areWritable rest

/-- Can the values of all fields of all shapes be written? -/
def areWritableShapes : List (String × List (String × Kind)) → Bool
  | [] => true
  | (_, fields) :: rest => areWritable fields && areWritableShapes rest
end

/-- The text that a kind admits if it admits one only. -/
def literal? : Kind → Option String
  | .literal s => some s
  | _ => none

end Kind

end Waymark
