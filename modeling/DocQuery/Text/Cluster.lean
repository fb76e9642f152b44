import DocQuery.Text.Cluster.Kind

/-!
# Visible characters

A visible character is a cluster: a letter with its marks, a Hangul syllable, a conjunct, a pair of
region letters, pictures that joiners hold together. The rules are those of extended grapheme
clusters. Whether a character joins the cluster before it depends on its kind and on what the
characters before it have left open, so that one pass over a text finds all clusters.
-/

namespace DocQuery.Text

/-- How far a sequence of joined pictures has come. -/
inductive PictureState where
  | none
  | shown
  | joined
deriving DecidableEq, Repr

inductive ConjunctState where
  | none
  | begun
  | linked
deriving DecidableEq, Repr

/-- What the characters of a text leave open for the next one. -/
structure Seen where
  last : Kind
  unpaired : Bool
  picture : PictureState
  conjunct : ConjunctState
deriving DecidableEq, Repr

namespace Kind

/-- A kind that stands alone, a carriage return with a line feed apart. -/
def isAlone (k : Kind) : Bool :=
  k == .carriageReturn || k == .lineFeed || k == .control

def isExtender (k : Kind) : Bool :=
  k == .mark || k == .linker || k == .nonJoiner

def attaches (k : Kind) : Bool :=
  k.isExtender || k == .joiner || k == .spacingMark

def inSyllable (before after : Kind) : Bool :=
  match before with
  | .leading =>
    after == .leading || after == .vowel || after == .openSyllable || after == .closedSyllable
  | .openSyllable | .vowel => after == .vowel || after == .trailing
  | .closedSyllable | .trailing => after == .trailing
  | _ => false

end Kind

namespace Seen

def start : Seen := ⟨.control, false, .none, .none⟩

/-- The next character belongs to the cluster of the last one. -/
def joins (s : Seen) (k : Kind) : Bool :=
  (s.last == .carriageReturn && k == .lineFeed) ||
    (!s.last.isAlone && !k.isAlone &&
      (k.attaches || s.last == .prepended || s.last.inSyllable k ||
        (k == .consonant && s.conjunct == .linked) ||
        (k == .pictograph && s.picture == .joined) ||
        (k == .indicator && s.unpaired)))

def pictureAfter (s : Seen) (k : Kind) : PictureState :=
  if k = .pictograph then .shown
  else if s.picture = .shown ∧ k.isExtender then .shown
  else if s.picture = .shown ∧ k = .joiner then .joined
  else .none

def conjunctAfter (s : Seen) (k : Kind) : ConjunctState :=
  match k with
  | .consonant => .begun
  | .linker => if s.conjunct = .none then .none else .linked
  | .mark | .joiner => s.conjunct
  | _ => .none

def after (s : Seen) (k : Kind) : Seen :=
  ⟨k, k == .indicator && !s.unpaired, s.pictureAfter k, s.conjunctAfter k⟩

theorem joins_start (k : Kind) : start.joins k = false := by
  cases k <;> rfl

end Seen

def cutClusters (s : Seen) : List Char → List Char × List (List Char)
  | [] => ([], [])
  | c :: text =>
    let (rest, later) := cutClusters (s.after (.ofChar c)) text
    if s.joins (.ofChar c) then (c :: rest, later) else ([], (c :: rest) :: later)

def clusters (text : List Char) : List (List Char) :=
  (cutClusters .start text).2

theorem append_flatten_cutClusters (s : Seen) (text : List Char) :
    (cutClusters s text).1 ++ (cutClusters s text).2.flatten = text := by
  induction text generalizing s with
  | nil => rfl
  | cons c text ih =>
    have h := ih (s.after (.ofChar c))
    by_cases hj : s.joins (.ofChar c) <;> simp [cutClusters, hj, h]

theorem flatten_clusters (text : List Char) : (clusters text).flatten = text := by
  have h := append_flatten_cutClusters .start text
  cases text with
  | nil => rfl
  | cons c text => simpa [clusters, cutClusters, Seen.joins_start] using h

end DocQuery.Text
