import QueryDoc.Text.Grapheme

/-!
# Corrected lines

A backspace in a typed line takes back the cluster kept last.
-/

namespace QueryDoc.Text

def backspace : Char := '\x08'

def byteSize (text : List Char) : Nat :=
  text.foldl (fun size c => size + c.utf8Size) 0

/--
Drops as many bytes as asked for, or all there are; none if a character would
be cut in two.
-/
def dropBytes? (size : Nat) : List Char → Option (List Char)
  | [] => some []
  | c :: text =>
      if size = 0 then some (c :: text)
      else if c.utf8Size ≤ size then dropBytes? (size - c.utf8Size) text
      else none

/--
What is kept of a line, backwards, and how many bytes to take back for each
cluster in it.  The sizes are counted modulo 256, so that of a cluster of more
bytes a part stays behind.
-/
structure Kept where
  text : List Char
  sizes : List Nat

namespace Kept

def push (kept : Kept) (cluster : List Char) : Kept :=
  ⟨cluster.reverse ++ kept.text, byteSize cluster % 256 :: kept.sizes⟩

def pop? (kept : Kept) : Option Kept :=
  match kept.sizes with
  | [] => some kept
  | size :: sizes => (dropBytes? size kept.text).map (⟨·, sizes⟩)

def follow? (kept : Kept) : List (List Char) → Option Kept
  | [] => some kept
  | cluster :: clusters =>
      if cluster = [backspace] then
        kept.pop?.bind (·.follow? clusters)
      else
        (kept.push cluster).follow? clusters

end Kept

def corrected? (line : List Char) : Option (List Char) :=
  (Kept.follow? ⟨[], []⟩ (clusters line)).map fun kept => kept.text.reverse

theorem Kept.follow?_of_not_mem {clusters : List (List Char)} (kept : Kept)
    (plain : [backspace] ∉ clusters) :
    (kept.follow? clusters).map Kept.text =
      some (clusters.flatten.reverse ++ kept.text) := by
  induction clusters generalizing kept with
  | nil => simp [follow?]
  | cons cluster clusters ih =>
      simp only [List.mem_cons, not_or] at plain
      simp [follow?, Ne.symm plain.1, ih _ plain.2, push]

theorem corrected?_of_not_mem {line : List Char} (plain : backspace ∉ line) :
    corrected? line = some line := by
  have absent : [backspace] ∉ clusters line := fun member =>
    plain (by
      rw [← flatten_clusters line]
      exact List.mem_flatten.mpr ⟨_, member, by simp⟩)
  have kept := Kept.follow?_of_not_mem ⟨[], []⟩ absent
  obtain ⟨result, found, text⟩ := Option.map_eq_some_iff.mp kept
  simp [corrected?, found, text, flatten_clusters]

example : corrected? "\x08ae\u0301\x08b".toList = some "ab".toList := by decide +kernel

example : (corrected? ('é' :: List.replicate 128 '\u0301' ++ [backspace])).map List.length =
    some 128 := by decide +kernel

end QueryDoc.Text
