import DocQuery.Proofs.Store.Order

/-!
# Objects of seconds and nanoseconds

An object that has its seconds as a whole number names the instant of its counts, within the range
of the calendar. Nanoseconds may be left out, which makes them zero. Nanoseconds that are there and
no whole number are zero as well: the object then names a whole second, whatever it says.
-/

namespace DocQuery

/-- A count of seconds and nanoseconds within the range of the calendar, a leap second only at the
end of a minute. -/
structure Instant.IsCounted (t : Instant) : Prop where
  first : yearStart (-262143) * secondsPerDay ≤ t.seconds
  last : t.seconds < yearStart 262143 * secondsPerDay
  nanos : t.nanos < 2 * nanosPerSecond
  leap : nanosPerSecond ≤ t.nanos → t.seconds % 60 = 59

namespace Instant

theorem ofCounts?_eq_some_iff {seconds : Int} {nanos : Nat} {t : Instant} :
    ofCounts? seconds nanos = some t ↔ t = ⟨seconds, nanos⟩ ∧ t.IsCounted := by
  unfold ofCounts?
  dsimp only
  constructor
  · intro made
    split at made
    · next inside =>
      obtain rfl := Option.some.inj made
      obtain ⟨⟨first, last⟩, small, leap⟩ := inside
      exact ⟨rfl, first, last, small, fun late => leap.resolve_left (not_not_intro late)⟩
    · cases made
  · rintro ⟨rfl, counted⟩
    rw [if_pos ⟨⟨counted.first, counted.last⟩, counted.nanos, not_or_of_imp counted.leap⟩]

theorem IsCounted.fits {t : Instant} (h : t.IsCounted) :
    Word.IsSigned t.seconds ∧ Word.IsUnsigned t.nanos := by
  have first : -Word.signedEnd ≤ yearStart (-262143) * secondsPerDay := by decide
  have last : yearStart 262143 * secondsPerDay ≤ Word.signedEnd := by decide
  have nanos : 2 * nanosPerSecond ≤ Word.unsignedEnd := by decide
  exact ⟨⟨first.trans h.first, h.last.trans_le last⟩, Int.natCast_nonneg _,
    Int.ofNat_lt.mpr (h.nanos.trans_le nanos)⟩

end Instant

namespace Json

theorem signed?_eq_some_iff {v : Json} {i : Int} :
    v.signed? = some i ↔ v = .number (.integer i) ∧ Word.IsSigned i := by
  constructor
  · intro read
    match v, read with
    | .number (.integer j), read =>
      simp only [signed?, Number.toSigned?] at read
      split at read
      · next word =>
        obtain rfl := Option.some.inj read
        exact ⟨rfl, word⟩
      · cases read
  · rintro ⟨rfl, word⟩
    exact if_pos word

theorem unsigned?_eq_some_iff {v : Json} {n : Nat} :
    v.unsigned? = some n ↔ v = .number (.integer n) ∧ Word.IsUnsigned n := by
  constructor
  · intro read
    match v, read with
    | .number (.integer j), read =>
      simp only [unsigned?, Number.toUnsigned?] at read
      split at read
      · next word =>
        obtain rfl := Option.some.inj read
        rw [Int.toNat_of_nonneg word.1]
        exact ⟨rfl, word⟩
      · cases read
  · rintro ⟨rfl, word⟩
    rw [unsigned?, Number.toUnsigned?, if_pos word, Int.toNat_natCast]

/-- What stands under the first of some keys that is there. -/
def first? (keys : List String) (v : Json) : Option Json :=
  keys.findSome? fun key => v.member? key

def secondsKeys : List String := ["_seconds", "seconds"]

def nanosKeys : List String := ["_nanoseconds", "nanos", "nanoseconds"]

/-- The value gives the counts of an instant: its seconds as a whole number, its nanoseconds as a
whole number or, when they are zero, not at all. -/
structure Counts (v : Json) (t : Instant) : Prop where
  seconds : v.first? secondsKeys = some (.number (.integer t.seconds))
  nanos : v.first? nanosKeys = some (.number (.integer t.nanos)) ∨
    v.first? nanosKeys = none ∧ t.nanos = 0

/-- Nanoseconds are there, but not as a whole number of an unsigned word. -/
def MisstatesNanos (v : Json) : Prop :=
  ∃ x, v.first? nanosKeys = some x ∧ x.unsigned? = none

theorem first?_cons (key : String) (keys : List String) (v : Json) :
    v.first? (key :: keys) = (v.member? key).or (v.first? keys) := by
  rw [first?, first?, List.findSome?_cons]
  cases v.member? key <;> rfl

theorem instantOfCounts?_eq (v : Json) : v.instantOfCounts? =
    ((v.first? secondsKeys).bind signed?).bind fun seconds =>
      Instant.ofCounts? seconds (((v.first? nanosKeys).bind unsigned?).getD 0) := by
  have none : v.first? [] = none := rfl
  rw [secondsKeys, nanosKeys]
  simp only [first?_cons, none, Option.or_none, ← Option.or_assoc]
  rfl

/-- Nanoseconds count for what is given, and for zero when they are misstated or left out. -/
theorem nanos_eq_iff {v : Json} {n : Nat} (fits : Word.IsUnsigned n) :
    ((v.first? nanosKeys).bind unsigned?).getD 0 = n ↔
      (v.first? nanosKeys = some (.number (.integer n)) ∨ v.first? nanosKeys = none ∧ n = 0) ∨
        v.MisstatesNanos ∧ n = 0 := by
  unfold MisstatesNanos
  cases v.first? nanosKeys with
  | none => simp [eq_comm]
  | some x =>
    cases read : x.unsigned? with
    | none =>
      have other : x ≠ .number (.integer n) := by
        rintro rfl
        rw [unsigned?_eq_some_iff.mpr ⟨rfl, fits⟩] at read
        cases read
      simp [read, other, eq_comm]
    | some m =>
      have same : x = .number (.integer n) ↔ m = n := by
        obtain ⟨rfl, -⟩ := unsigned?_eq_some_iff.mp read
        rw [number.injEq, Number.integer.injEq, Int.natCast_inj]
      simp [read, same]

theorem Counts.not_misstates {v : Json} {t : Instant} (h : v.Counts t) (counted : t.IsCounted) :
    ¬v.MisstatesNanos := by
  rintro ⟨x, there, unread⟩
  rcases h.nanos with given | ⟨absent, -⟩
  · obtain rfl := Option.some.inj (there.symm.trans given)
    rw [unsigned?_eq_some_iff.mpr ⟨rfl, counted.fits.2⟩] at unread
    cases unread
  · rw [absent] at there
    cases there

theorem instant?_object_eq_some_iff {members : List (String × Json)} {t : Instant} :
    (object members).instant? = some t ↔ t.IsCounted ∧ ((object members).Counts t ∨
      (object members).MisstatesNanos ∧ t.nanos = 0 ∧
        (object members).first? secondsKeys = some (.number (.integer t.seconds))) := by
  rw [instant?, instantOfCounts?_eq]
  simp only [Option.bind_eq_some_iff, signed?_eq_some_iff, Instant.ofCounts?_eq_some_iff]
  constructor
  · rintro ⟨seconds, ⟨x, there, rfl, -⟩, made, counted⟩
    have nanos := (nanos_eq_iff counted.fits.2).mp (congrArg Instant.nanos made).symm
    obtain rfl : t.seconds = seconds := congrArg Instant.seconds made
    refine ⟨counted, nanos.imp (Counts.mk there) fun misstated => ?_⟩
    exact ⟨misstated.1, misstated.2, there⟩
  · rintro ⟨counted, given⟩
    have there := given.elim Counts.seconds fun misstated => misstated.2.2
    have nanos := (nanos_eq_iff counted.fits.2).mpr
      (given.imp Counts.nanos fun misstated => ⟨misstated.1, misstated.2.1⟩)
    exact ⟨t.seconds, ⟨_, there, rfl, counted.fits.1⟩, by rw [nanos], counted⟩

/-- An object names the instant whose counts it gives, or the whole second when its nanoseconds are
there but no whole number of an unsigned word. -/
theorem objects_name_the_counts_they_give (members : List (String × Json)) :
    let v := object members
    (∀ t, v.instant? = some t ↔ t.IsCounted ∧ (v.Counts t ∨
      v.MisstatesNanos ∧ t.nanos = 0 ∧
        v.first? secondsKeys = some (.number (.integer t.seconds)))) ∧
    (¬v.MisstatesNanos → ∀ t, v.instant? = some t ↔ v.Counts t ∧ t.IsCounted) ∧
    ∀ (others : List (String × Json)) (t u : Instant), v.Counts t → (object others).Counts u →
      t.IsCounted → u.IsCounted →
        (v.compareStored (object others) = .eq ↔ t = u) ∧
        (t.seconds = u.seconds → v.compareStored (object others) = compare t.nanos u.nanos) := by
  refine ⟨fun t => instant?_object_eq_some_iff, ?_, ?_⟩
  · intro stated t
    rw [instant?_object_eq_some_iff, and_comm, or_iff_left fun misstated => stated misstated.1]
  · intro others t u first second inside inside'
    have named := instant?_object_eq_some_iff.mpr ⟨inside, .inl first⟩
    have named' := instant?_object_eq_some_iff.mpr ⟨inside', .inl second⟩
    have compared : compareStored (object members) (object others) = t.compare u := by
      unfold compareStored
      rw [named, named']
    rw [compared]
    refine ⟨t.compare_eq_eq_iff u, fun same => ?_⟩
    rw [Instant.compare, compare_eq_iff_eq.mpr same, Ordering.eq_then]

def stamp (secondsKey nanosKey : String) (nanos : Number) : List (String × Json) :=
  [(secondsKey, .number (.integer 1700000000)), (nanosKey, .number nanos)]

theorem isCounted_stamp {nanos : Nat} (inside : nanos < nanosPerSecond) :
    Instant.IsCounted ⟨1700000000, nanos⟩ where
  first := show yearStart (-262143) * secondsPerDay ≤ 1700000000 by decide
  last := show 1700000000 < yearStart 262143 * secondsPerDay by decide
  nanos := inside.trans_le (Nat.le_mul_of_pos_left _ (by decide))
  leap := fun late => absurd inside (Nat.not_lt_of_le late)

theorem objects_name_the_counts_they_give_of_stamps :
    let whole := stamp "_seconds" "_nanoseconds" (.integer 0)
    let later := stamp "seconds" "nanos" (.integer 5)
    ¬(object later).MisstatesNanos ∧ (object later).instant? = some ⟨1700000000, 5⟩ ∧
    (object whole).Counts ⟨1700000000, 0⟩ ∧ (object later).Counts ⟨1700000000, 5⟩ ∧
    (object whole).compareStored (object later) = .lt := by
  have first : (object (stamp "_seconds" "_nanoseconds" (.integer 0))).Counts ⟨1700000000, 0⟩ :=
    ⟨rfl, .inl rfl⟩
  have second : (object (stamp "seconds" "nanos" (.integer 5))).Counts ⟨1700000000, 5⟩ :=
    ⟨rfl, .inl rfl⟩
  have inside : Instant.IsCounted ⟨1700000000, 0⟩ := isCounted_stamp (by decide)
  have inside' : Instant.IsCounted ⟨1700000000, 5⟩ := isCounted_stamp (by decide)
  have stated := second.not_misstates inside'
  obtain ⟨-, -, pairs⟩ := objects_name_the_counts_they_give (stamp "_seconds" "_nanoseconds" _)
  obtain ⟨-, named, -⟩ := objects_name_the_counts_they_give (stamp "seconds" "nanos" _)
  refine ⟨stated, (named stated _).mpr ⟨second, inside'⟩, first, second, ?_⟩
  rw [(pairs _ _ _ first second inside inside').2 rfl]
  rfl

def halfSecond : Binary64 := ⟨false, 500000000 * Binary64.unitsPerOne, by decide +kernel⟩

/-- Half a second in nanoseconds, written with a point, counts for nothing. -/
theorem half_a_second_with_a_point_is_lost :
    let v := object (stamp "_seconds" "_nanoseconds" (.float halfSecond))
    let whole := object (stamp "_seconds" "_nanoseconds" (.integer 0))
    halfSecond.value = 500000000 * Binary64.unitsPerOne ∧
    v.first? nanosKeys = some (.number (.float halfSecond)) ∧
    v.instant? = some ⟨1700000000, 0⟩ ∧ ¬v.Counts ⟨1700000000, 0⟩ ∧
    v.compareStored whole = .eq := by
  have inside : Instant.IsCounted ⟨1700000000, 0⟩ := isCounted_stamp (by decide)
  have there : (object (stamp "_seconds" "_nanoseconds" (.float halfSecond))).first? nanosKeys =
      some (.number (.float halfSecond)) := rfl
  have named := instant?_object_eq_some_iff.mpr ⟨inside, .inr ⟨⟨_, there, rfl⟩, rfl, rfl⟩⟩
  have named' : (object (stamp "_seconds" "_nanoseconds" (.integer 0))).instant? =
      some ⟨1700000000, 0⟩ := instant?_object_eq_some_iff.mpr ⟨inside, .inl ⟨rfl, .inl rfl⟩⟩
  refine ⟨Int.natCast_mul 500000000 _, there, named, ?_, ?_⟩
  · intro counts
    exact counts.not_misstates inside ⟨_, there, rfl⟩
  · unfold compareStored
    rw [named, named']
    rfl

end Json

end DocQuery
