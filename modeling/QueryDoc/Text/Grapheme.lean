import QueryDoc.Text.GraphemeBreak
import QueryDoc.Text.Properties

/-!
# Grapheme clusters

A text falls into extended grapheme clusters, the characters that a reader sees
as one.  Whether a character goes on with the cluster before it depends on a
bounded part of what came before.
-/

namespace QueryDoc.Text

/--
How far a chain has come at the end of a text.  Pictographs are linked by a
joiner and consonants by the linkers of their script; one more can follow only
what is linked.
-/
inductive Chain where
  | absent
  | begun
  | linked
  deriving DecidableEq, Repr

def Chain.withPictograph (chain : Chain) (c : Char) : Chain :=
  if isPictographic c then
    .begun
  else
    match chain, GraphemeBreak.ofChar c with
    | .begun, .extend => .begun
    | .begun, .joiner => .linked
    | _, _ => .absent

/-- The zero width non-joiner ends a conjunct, though it extends a cluster. -/
def Chain.withConsonant (chain : Chain) (c : Char) : Chain :=
  if isConsonant c then
    .begun
  else if isLinker c then
    if chain = .absent then .absent else .linked
  else if c = '\u200c' then
    .absent
  else
    match GraphemeBreak.ofChar c with
    | .extend | .joiner => chain
    | _ => .absent

structure Context where
  last : GraphemeBreak
  halfFlag : Bool
  pictographs : Chain
  consonants : Chain
  deriving DecidableEq, Repr

namespace Context

def start : Context :=
  ⟨.other, false, .absent, .absent⟩

def push (context : Context) (c : Char) : Context :=
  { last := GraphemeBreak.ofChar c
    halfFlag := isRegionalIndicator c && !context.halfFlag
    pictographs := context.pictographs.withPictograph c
    consonants := context.consonants.withConsonant c }

end Context

/-! ## Boundaries -/

namespace GraphemeBreak

def isAlone : GraphemeBreak → Bool
  | .carriageReturn | .lineFeed | .control => true
  | _ => false

def continuesSyllable : GraphemeBreak → GraphemeBreak → Bool
  | .leading, .leading | .leading, .vowel | .leading, .openSyllable
  | .leading, .closedSyllable => true
  | .openSyllable, .vowel | .openSyllable, .trailing => true
  | .vowel, .vowel | .vowel, .trailing => true
  | .closedSyllable, .trailing | .trailing, .trailing => true
  | _, _ => false

def attaches : GraphemeBreak → Bool
  | .extend | .joiner | .spacingMark => true
  | _ => false

end GraphemeBreak

def Context.joins (context : Context) (c : Char) : Bool :=
  let next := GraphemeBreak.ofChar c
  if context.last = .carriageReturn ∧ next = .lineFeed then
    true
  else if context.last.isAlone || next.isAlone then
    false
  else
    context.last.continuesSyllable next || next.attaches || context.last = .prepend ||
      (context.consonants = .linked && isConsonant c) ||
      (context.pictographs = .linked && isPictographic c) ||
      (context.halfFlag && isRegionalIndicator c)

/-! ## Clusters -/

/-- The clusters of a text behind an open cluster, which is held backwards. -/
def clustersFrom (context : Context) (cluster : List Char) :
    List Char → List (List Char)
  | [] => [cluster.reverse]
  | c :: text =>
      if context.joins c then
        clustersFrom (context.push c) (c :: cluster) text
      else
        cluster.reverse :: clustersFrom (context.push c) [c] text

def clusters : List Char → List (List Char)
  | [] => []
  | c :: text => clustersFrom (Context.start.push c) [c] text

theorem flatten_clustersFrom (context : Context) (cluster text : List Char) :
    (clustersFrom context cluster text).flatten = cluster.reverse ++ text := by
  induction text generalizing context cluster with
  | nil => simp [clustersFrom]
  | cons c text ih =>
      simp only [clustersFrom]
      split <;> simp [ih]

theorem flatten_clusters (text : List Char) : (clusters text).flatten = text := by
  cases text with
  | nil => rfl
  | cons c text => simp [clusters, flatten_clustersFrom]

example : clusters "e\u0301x\r\n".toList =
    [['e', '\u0301'], ['x'], ['\r', '\n']] := by decide +kernel

end QueryDoc.Text
