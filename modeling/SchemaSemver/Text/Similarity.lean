/-
SchemaSemver.Text.Similarity — how much two texts have in common, and the words close to a word.

Two texts share their longest common run, and on both sides of it what the parts there share. They
are similar when what they share makes up three fifths of them.
-/

namespace SchemaSemver.Text

/-! ## Shared characters -/

/-- The length of the common beginning of two texts. -/
def commonStart : List Char → List Char → Nat
  | a :: as, b :: bs => if a = b then commonStart as bs + 1 else 0
  | _, _ => 0

theorem commonStart_le_left (a b : List Char) : commonStart a b ≤ a.length := by
  fun_induction commonStart a b <;> simp_all

/-- A run of characters that two texts share: where it begins in each, and its length. -/
structure SharedRun where
  left : Nat
  right : Nat
  length : Nat
deriving DecidableEq, Repr

/-- The longer of two runs; of two equally long ones the first. -/
def SharedRun.longer (first second : SharedRun) : SharedRun :=
  if first.length < second.length then second else first

/-- The longest run that begins at the front of `a`, the first one in `b`; the texts are what is
left of two texts from the given places on. -/
def longestRunAt (left right : Nat) (a : List Char) : List Char → SharedRun
  | [] => ⟨left, right, 0⟩
  | b :: rest =>
    .longer ⟨left, right, commonStart a (b :: rest)⟩ (longestRunAt left (right + 1) a rest)

/-- The longest run that `b` shares with a text, of which `a` is what is left from a place on: the
first one in that text, and then in `b`. -/
def longestRun (left : Nat) (b : List Char) : List Char → SharedRun
  | [] => ⟨left, 0, 0⟩
  | a :: rest => .longer (longestRunAt left 0 (a :: rest) b) (longestRun (left + 1) b rest)

/-- The number of characters that two texts share. The first argument bounds the number of runs. -/
def sharedUpTo : Nat → List Char → List Char → Nat
  | 0, _, _ => 0
  | fuel + 1, a, b =>
    let run := longestRun 0 b a
    if run.length = 0 then 0
    else
      sharedUpTo fuel (a.take run.left) (b.take run.right) + run.length
        + sharedUpTo fuel (a.drop (run.left + run.length)) (b.drop (run.right + run.length))

/-- The number of characters that two texts share. -/
def sharedCount (a b : List Char) : Nat := sharedUpTo a.length a b

/-! ## Close words -/

/-- A word, and how much it has in common with another: `shared` of the characters of each, which
are `total` together. -/
structure Resemblance where
  word : String
  shared : Nat
  total : Nat
deriving DecidableEq, Repr

namespace Resemblance

/-- What a word has in common with the word that was written. -/
def of (written word : String) : Resemblance :=
  ⟨word, sharedCount word.toList written.toList, word.length + written.length⟩

/-- Do the words have at least three fifths in common? -/
def isClose (r : Resemblance) : Bool := 3 * r.total ≤ 10 * r.shared

/-- Does the first word come before the second? The closer one does, and of two equally close ones
the greater one. -/
def precedes (r s : Resemblance) : Bool :=
  let left := r.shared * s.total
  let right := s.shared * r.total
  right < left || (left == right && decide (s.word ≤ r.word))

end Resemblance

/-- At most the given number of words that are close to the written one, the closest first. -/
def closeWords (limit : Nat) (words : List String) (written : String) : List String :=
  let close := (words.map (Resemblance.of written)).filter Resemblance.isClose
  ((close.mergeSort Resemblance.precedes).take limit).map Resemblance.word

end SchemaSemver.Text
