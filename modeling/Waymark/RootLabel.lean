import Waymark.Text.Blank
import Waymark.Text.Identifier
import Waymark.Text.Quoted

/-! # Root labels

    A root to generate is named by the module it stands in and its class, as in
    `package.module:RootClass`. Blanks around the label do not count.
-/

namespace Waymark

/-- The module and the class name of a root. -/
structure RootLabel where
  module : String
  name : String
  deriving Repr, DecidableEq

namespace RootLabel

/-- The label as text. -/
def text (r : RootLabel) : String :=
  r.module ++ ":" ++ r.name

/-- What is said about a text that is no label. -/
def refusal (given : String) : String :=
  "root must look like 'package.module:RootClass', got " ++ Text.quoted given

/-- Splits at the first colon; nothing if there is none. -/
def splitColon (s : List Char) : Option (List Char × List Char) :=
  match s.dropWhile (· != ':') with
  | [] => none
  | _ :: after => some (s.takeWhile (· != ':'), after)

/-- Reads a label: a dotted name, a colon and an identifier. -/
def parse? (given : String) : Option RootLabel := do
  let (before, after) ← splitColon (Text.trim given).toList
  let module := String.ofList before
  let name := String.ofList after
  if Text.isDottedName module && Text.isIdentifier name then some { module, name } else none

/-- A text that is split at its colon is what stands on its two sides. -/
theorem eq_of_splitColon {s before after : List Char} (h : splitColon s = some (before, after)) :
    s = before ++ ':' :: after := by
  have hsplit := List.takeWhile_append_dropWhile (p := (· != ':')) (l := s)
  have hhead := List.head?_dropWhile_not (· != ':') s
  unfold splitColon at h
  cases hafter : s.dropWhile (· != ':') with
  | nil => simp [hafter] at h
  | cons c rest =>
    simp only [hafter, Option.some.injEq, Prod.mk.injEq] at h
    obtain ⟨rfl, rfl⟩ := h
    -- what was dropped begins with the colon
    rw [hafter] at hhead hsplit
    obtain rfl : c = ':' := by simpa using hhead
    exact hsplit.symm

/-- A label that was read is written as it was given, blanks around it apart. -/
theorem text_of_parse? {given : String} {r : RootLabel} (h : parse? given = some r) :
    r.text = Text.trim given := by
  unfold parse? at h
  obtain ⟨⟨before, after⟩, hsplit, hread⟩ := Option.bind_eq_some_iff.mp h
  rw [Option.ite_none_right_eq_some] at hread
  obtain ⟨-, hread⟩ := hread
  obtain rfl := Option.some.inj hread
  apply String.toList_inj.mp
  rw [eq_of_splitColon hsplit]
  simp [text]

/-- A label that was read can be read again. -/
theorem parse?_text_of_parse? {given : String} {r : RootLabel} (h : parse? given = some r) :
    parse? r.text = some r := by
  have htrim : Text.trim r.text = r.text := by
    rw [text_of_parse? h, Text.trim_trim]
  have hsame : parse? r.text = parse? given := by
    unfold parse?
    rw [htrim, text_of_parse? h]
  rw [hsame, h]

/-- Labels that were read differ if they are written differently. -/
theorem eq_of_text_eq {given given' : String} {r r' : RootLabel} (h : parse? given = some r)
    (h' : parse? given' = some r') (htext : r.text = r'.text) : r = r' := by
  have hread := parse?_text_of_parse? h
  rw [htext, parse?_text_of_parse? h'] at hread
  exact (Option.some.inj hread).symm

end RootLabel

end Waymark
