import Headway.Proofs.Service.Bounds
import Headway.Proofs.Service.Run

/-!
# Time buckets

The buckets of a clock divide its days, the hours before the start of service included. A value
is rounded down to the one multiple of the width that is at most the value and less than a width
below it (`roundDown_eq_iff`). So a multiple stays as it is, and two values share their multiple
exactly if they lie between the same two neighbouring multiples (`roundDown_eq_roundDown_iff`).

Rounding down takes several steps, and in signed 32-bit numbers each could leave their range. Only
the last one does, a product below the least of them (`roundDown32?_eq`). Seconds into the day are
at most a day away from zero (`ServiceClock.secondsInto_bounds`). So with a width of at most a day
no step leaves the range on the way to the bucket of an instant
(`ServiceClock.buckets_tile_the_day`), whatever the zone. The clock of settings that pass the check
has such a width (`Service.bucketWidth_bounds`).
-/

namespace Headway

/-! ## Rounding down -/

theorem roundDown_eq_iff {value width b : Int} (h : 0 < width) :
    roundDown value width = b ↔ width ∣ b ∧ b ≤ value ∧ value < b + width := by
  constructor
  · rintro rfl
    exact ⟨dvd_roundDown h, roundDown_le, lt_roundDown_add h⟩
  · rintro ⟨⟨k, rfl⟩, hle, hlt⟩
    have hquotient : value / width = k := by
      rw [Int.ediv_eq_iff_of_pos h, Int.mul_comm k]
      exact ⟨hle, hlt⟩
    rw [roundDown_of_pos h, hquotient, Int.mul_comm]

theorem roundDown_of_dvd {b width : Int} (h : 0 < width) (hdvd : width ∣ b) :
    roundDown b width = b :=
  (roundDown_eq_iff h).mpr ⟨hdvd, Int.le_refl b, Int.lt_add_of_pos_right b h⟩

theorem roundDown_eq_mul_iff {value width k : Int} (h : 0 < width) :
    roundDown value width = k * width ↔ value ∈ Set.Ico (k * width) ((k + 1) * width) := by
  rw [roundDown_eq_iff h, Set.mem_Ico, add_one_mul]
  exact and_iff_right (Int.dvd_mul_left k width)

theorem roundDown_eq_roundDown_iff {a b width : Int} (h : 0 < width) :
    roundDown a width = roundDown b width ↔
      ∃ k : Int, a ∈ Set.Ico (k * width) ((k + 1) * width) ∧
        b ∈ Set.Ico (k * width) ((k + 1) * width) := by
  simp only [← roundDown_eq_mul_iff h]
  constructor
  · intro hsame
    obtain ⟨k, hk⟩ : width ∣ roundDown a width := dvd_roundDown h
    rw [Int.mul_comm] at hk
    exact ⟨k, hk, hsame ▸ hk⟩
  · rintro ⟨k, ha, hb⟩
    exact ha.trans hb.symm

/-- Division toward zero gives the quotient rounded down, or one more where the rest is negative. -/
theorem tdiv_cases (value : Int) {width : Int} (h : 0 < width) :
    0 ≤ value.tmod width ∧ value.tdiv width = value / width ∨
      value.tmod width < 0 ∧ value.tdiv width = value / width + 1 ∧ value / width < 0 := by
  have hnonneg := Int.emod_nonneg value h.ne'
  have hlt := Int.emod_lt_of_pos value h
  rw [Int.tdiv_eq_ediv, Int.tmod_eq_emod, Int.sign_eq_one_of_pos h]
  split
  · exact Or.inl ⟨by omega, Int.add_zero _⟩
  · rename_i hinexact
    have hneg : value < 0 := Int.not_le.mp fun hle => hinexact (Or.inl hle)
    exact Or.inr ⟨by omega, rfl, Int.ediv_neg_of_neg_of_pos hneg h⟩

/-! ## Rounding down in signed 32-bit numbers -/

/-- A signed 32-bit number can hold it. -/
def Fits32 (n : Int) : Prop := -2147483648 ≤ n ∧ n ≤ 2147483647

instance (n : Int) : Decidable (Fits32 n) :=
  inferInstanceAs (Decidable (-2147483648 ≤ n ∧ n ≤ 2147483647))

/-- The result of a step, unless it leaves the range of signed 32-bit numbers. -/
def fit32? (n : Int) : Option Int := if Fits32 n then some n else none

theorem fit32?_of_fits {n : Int} (h : Fits32 n) : fit32? n = some n := if_pos h

/-- The quotient by a positive width, rounded down. Division goes toward zero, and where its rest is
negative the quotient is one less. -/
def quotient32? (value width : Int) : Option Int := do
  let quotient ← fit32? (value.tdiv width)
  let rest ← fit32? (value.tmod width)
  if rest < 0 then fit32? (quotient - 1) else some quotient

/-- Rounds down step by step, as far as no step leaves the range. -/
def roundDown32? (value width : Int) : Option Int :=
  if width ≤ 0 then some value else do
    let quotient ← quotient32? value width
    fit32? (quotient * width)

theorem Fits32.ediv {value width : Int} (h : Fits32 value) (hpos : 0 < width) :
    Fits32 (value / width) := by
  have hsize := Int.natAbs_ediv_le_natAbs value width
  unfold Fits32 at *
  rcases Int.lt_or_le value 0 with hneg | hnonneg
  -- the one size that fits on one side of zero only is that of the least number
  · have := Int.ediv_neg_of_neg_of_pos hneg hpos
    omega
  · omega

theorem quotient32?_eq {value width : Int} (hvalue : Fits32 value) (hwidth : Fits32 width)
    (hpos : 0 < width) : quotient32? value width = some (value / width) := by
  have hquotient := hvalue.ediv hpos
  have hrest : Fits32 (value.tmod width) := by
    have := Int.lt_tmod_of_pos value hpos
    have := Int.tmod_lt_of_pos value hpos
    unfold Fits32 at *
    omega
  unfold quotient32?
  rcases tdiv_cases value hpos with ⟨hnonneg, hdiv⟩ | ⟨hneg, hdiv, hbelow⟩
  · rw [hdiv, fit32?_of_fits hquotient, fit32?_of_fits hrest]
    exact if_neg (Int.not_lt.mpr hnonneg)
  · have hcut : Fits32 (value / width + 1) := by
      unfold Fits32 at *
      omega
    rw [hdiv, fit32?_of_fits hcut, fit32?_of_fits hrest]
    change (if value.tmod width < 0 then fit32? (value / width + 1 - 1) else _) = _
    rw [if_pos hneg, Int.add_sub_cancel, fit32?_of_fits hquotient]

/-- Of the steps of rounding down only the last, the product, can leave the range. -/
theorem roundDown32?_eq {value width : Int} (hvalue : Fits32 value) (hwidth : Fits32 width) :
    roundDown32? value width = fit32? (roundDown value width) := by
  unfold roundDown32? roundDown
  split
  · exact (fit32?_of_fits hvalue).symm
  · rename_i hpos
    rw [quotient32?_eq hvalue hwidth (Int.not_le.mp hpos)]
    rfl

/-- The least number is no multiple of three, and the multiple below it is out of range. -/
example : roundDown32? (-2147483648) 3 = none := by decide

/-! ## Seconds into the day -/

namespace ServiceClock

variable (clock : ServiceClock)

/-- A day goes on from the start of service to midnight, or through a leap second before it. -/
theorem nanosSince_dayStart_bounds (l : Instant) :
    -(clock.startHour * 3600 : Int) * 1000000000 ≤ l.nanosSince (clock.dayStart l) ∧
      l.nanosSince (clock.dayStart l) < (86401 - clock.startHour * 3600 : Int) * 1000000000 := by
  have hhour := clock.startHour_le
  have hnano := l.nano_lt
  have hstart : (clock.dayStart l).isLeap = false := rfl
  simp only [Instant.nanosSince, hstart, Bool.false_eq_true, and_false, if_false]
  simp only [Instant.secondOfDay, Instant.isLeap, dayStart, Instant.day, decide_eq_true_eq]
  split
  · omega
  · omega

theorem secondsInto_bounds (l : Instant) :
    -(clock.startHour * 3600 : Int) ≤ clock.secondsInto l ∧
      clock.secondsInto l ≤ 86400 - clock.startHour * 3600 := by
  have hhour := clock.startHour_le
  obtain ⟨hlow, hhigh⟩ := clock.nanosSince_dayStart_bounds l
  unfold secondsInto
  rcases tdiv_cases (l.nanosSince (clock.dayStart l)) (show (0 : Int) < 1000000000 by omega) with
    ⟨-, hdiv⟩ | ⟨-, hdiv, hbelow⟩
  · rw [hdiv]
    omega
  · rw [hdiv]
    omega

/-! ## The bucket of an instant -/

/-- The bucket of seconds into the day in signed 32-bit numbers. The seconds and the width have to
fit, and so has every step from there. -/
def bucketOfSeconds32? (seconds : Int) : Option Int := do
  let value ← fit32? seconds
  let width ← fit32? clock.bucketWidth
  roundDown32? value width

/-- The bucket of an instant in signed 32-bit numbers. -/
def bucket32? (t : Instant) : Except NoLocalTime (Option Int) :=
  (clock.secondsIntoDay t).map clock.bucketOfSeconds32?

/-- An instant is that many seconds into its day and falls into a bucket, which starts at a multiple
of the width and is a width long. No step of the computation leaves the signed 32-bit numbers. -/
structure FallsInto (t : Instant) (seconds b : Int) : Prop where
  seconds_eq : clock.secondsIntoDay t = .ok seconds
  bucket_eq : clock.bucket t = .ok b
  bucket32?_eq : clock.bucket32? t = .ok (some b)
  le : b ≤ seconds
  lt : seconds < b + clock.bucketWidth
  dvd : (clock.bucketWidth : Int) ∣ b
  again : roundDown b clock.signedWidth = b

/-- The seconds from a multiple of the width up to the next one. -/
def slot (k : Int) : Set Int := Set.Ico (k * clock.bucketWidth) ((k + 1) * clock.bucketWidth)

variable {clock} {t u l : Instant}

theorem signedWidth_eq (h : clock.bucketWidth ≤ secondsPerDay) :
    clock.signedWidth = clock.bucketWidth := by
  unfold secondsPerDay at h
  exact Int.bmod_eq_of_le_mul_two (by omega) (by omega)

theorem bucketOfLocal_eq (h : clock.bucketWidth ≤ secondsPerDay) :
    clock.bucketOfLocal l = roundDown (clock.secondsInto l) clock.bucketWidth := by
  rw [bucketOfLocal, signedWidth_eq h]

theorem bucketOfSeconds32?_eq (hpos : 1 ≤ clock.bucketWidth)
    (hday : clock.bucketWidth ≤ secondsPerDay) :
    clock.bucketOfSeconds32? (clock.secondsInto l) = some (clock.bucketOfLocal l) := by
  have hwidth : (0 : Int) < clock.bucketWidth := by omega
  obtain ⟨-, hle, hlt⟩ := (roundDown_eq_iff hwidth).mp
    (bucketOfLocal_eq hday : clock.bucketOfLocal l = _).symm
  -- the bucket is less than a day below the seconds, which are less than a day below zero
  have hfits : Fits32 (clock.secondsInto l) ∧ Fits32 clock.bucketWidth ∧
      Fits32 (clock.bucketOfLocal l) := by
    have hhour := clock.startHour_le
    have hbounds := clock.secondsInto_bounds l
    unfold Fits32
    unfold secondsPerDay at hday
    omega
  obtain ⟨hfitSeconds, hfitWidth, hfitBucket⟩ := hfits
  rw [bucketOfSeconds32?, fit32?_of_fits hfitSeconds, fit32?_of_fits hfitWidth]
  change roundDown32? (clock.secondsInto l) clock.bucketWidth = _
  rw [roundDown32?_eq hfitSeconds hfitWidth, ← bucketOfLocal_eq hday, fit32?_of_fits hfitBucket]

theorem fallsInto_of_toLocal (hpos : 1 ≤ clock.bucketWidth)
    (hday : clock.bucketWidth ≤ secondsPerDay) (h : clock.toLocal t = .ok l) :
    clock.FallsInto t (clock.secondsInto l) (clock.bucketOfLocal l) := by
  have hwidth : (0 : Int) < clock.bucketWidth := by omega
  have hseconds : clock.secondsIntoDay t = .ok (clock.secondsInto l) := by
    rw [secondsIntoDay, h]
    rfl
  obtain ⟨hdvd, hle, hlt⟩ := (roundDown_eq_iff hwidth).mp (bucketOfLocal_eq hday).symm
  refine ⟨hseconds, ?_, ?_, hle, hlt, hdvd, ?_⟩
  · rw [bucket, h]
    rfl
  · rw [bucket32?, hseconds, ← bucketOfSeconds32?_eq hpos hday]
    rfl
  · rw [signedWidth_eq hday, roundDown_of_dvd hwidth hdvd]

theorem FallsInto.bucket_eq_bucket_iff {s b s' b' : Int} (h : clock.FallsInto t s b)
    (h' : clock.FallsInto u s' b') :
    clock.bucket t = clock.bucket u ↔ ∃ k, s ∈ clock.slot k ∧ s' ∈ clock.slot k := by
  have hwidth : (0 : Int) < clock.bucketWidth := by
    have := h.le
    have := h.lt
    omega
  have hb := (roundDown_eq_iff hwidth).mpr ⟨h.dvd, h.le, h.lt⟩
  have hb' := (roundDown_eq_iff hwidth).mpr ⟨h'.dvd, h'.le, h'.lt⟩
  rw [h.bucket_eq, h'.bucket_eq, Except.ok.injEq, ← hb, ← hb']
  exact roundDown_eq_roundDown_iff hwidth

variable (clock) in
/-- With a width of at least a second and at most a day, every instant with a local time falls into
a bucket, in signed 32-bit numbers too. Two instants share their bucket exactly if their seconds
into the day lie between the same two neighbouring multiples of the width. -/
theorem buckets_tile_the_day (hpos : 1 ≤ clock.bucketWidth)
    (hday : clock.bucketWidth ≤ secondsPerDay) {t u l m : Instant} (ht : clock.toLocal t = .ok l)
    (hu : clock.toLocal u = .ok m) :
    ∃ s b s' b', clock.FallsInto t s b ∧ clock.FallsInto u s' b' ∧
      (clock.bucket t = clock.bucket u ↔ ∃ k, s ∈ clock.slot k ∧ s' ∈ clock.slot k) := by
  have hfirst := fallsInto_of_toLocal hpos hday ht
  have hsecond := fallsInto_of_toLocal hpos hday hu
  exact ⟨_, _, _, _, hfirst, hsecond, hfirst.bucket_eq_bucket_iff hsecond⟩

end ServiceClock

namespace Service

/-- The width in settings that pass the check is the one of the clock. -/
theorem bucketWidth_bounds {R : Type} [Scalar R] {svc : Service R} {zones : String → Option Zone}
    (h : svc.Checked zones) :
    svc.clock.bucketWidth = svc.settings.averages.bucketWidth ∧
      1 ≤ svc.clock.bucketWidth ∧ svc.clock.bucketWidth ≤ secondsPerDay := by
  have hwidth : svc.clock.bucketWidth = svc.settings.averages.bucketWidth := by
    obtain ⟨zone, -, hclock⟩ := clock_of_checked h
    rw [hclock]
    rfl
  have hfaults := h.1
  simp only [Settings.check_eq_ok_iff, Settings.faults, List.append_eq_nil_iff, and_assoc]
    at hfaults
  obtain ⟨-, hdemand, -⟩ := hfaults
  have hmet := Settings.demand_eq_nil_iff.mp hdemand
  rw [Bool.and_eq_true, decide_eq_true_eq, decide_eq_true_eq] at hmet
  exact ⟨hwidth, hwidth ▸ hmet⟩

/-! ### Before service starts -/

/-- The shuttle in the mountains, where service starts at four and buckets are seven hours wide. -/
noncomputable def mountainShuttle : Service ℝ :=
  { shuttle with
    settings := { shuttle.settings with
      timezone := "Asia/Kathmandu"
      averages := { bucketWidth := 25200, dayStartHour := 4 } }
    clock := .of ((Zone.named? "Asia/Kathmandu").get rfl) 4 25200 }

theorem mountainShuttle_checked : mountainShuttle.Checked Zone.named? := by
  refine ⟨?_, rfl⟩
  rw [Settings.check_eq_ok_iff]
  simp only [Settings.faults, mountainShuttle, shuttle, shuttle_fraction]
  decide

/-- An hour before service starts. -/
def anHourBefore : Instant := (Instant.of? 1709759700 0).get rfl

/-- Half a second before service starts. -/
def justBefore : Instant := (Instant.of? 1709763299 500000000).get rfl

/-- The last half second before the start of service is rounded to it and falls into another bucket
than the hour before. -/
theorem buckets_tile_before_service :
    mountainShuttle.Checked Zone.named? ∧
      mountainShuttle.clock.toLocal anHourBefore = .ok ((Instant.of? 1709780400 0).get rfl) ∧
      mountainShuttle.clock.toLocal justBefore =
        .ok ((Instant.of? 1709783999 500000000).get rfl) ∧
      ∃ b b', mountainShuttle.clock.FallsInto anHourBefore (-3600) b ∧
        mountainShuttle.clock.FallsInto justBefore 0 b' ∧
        mountainShuttle.clock.bucket anHourBefore ≠ mountainShuttle.clock.bucket justBefore := by
  have hfirst : mountainShuttle.clock.toLocal anHourBefore =
      .ok ((Instant.of? 1709780400 0).get rfl) := by decide +kernel
  have hsecond : mountainShuttle.clock.toLocal justBefore =
      .ok ((Instant.of? 1709783999 500000000).get rfl) := by decide +kernel
  obtain ⟨-, hpos, hday⟩ := bucketWidth_bounds mountainShuttle_checked
  obtain ⟨s, b, s', b', hb, hb', hiff⟩ :=
    mountainShuttle.clock.buckets_tile_the_day hpos hday hfirst hsecond
  have hs : mountainShuttle.clock.secondsIntoDay anHourBefore = .ok (-3600) := by decide +kernel
  have hs' : mountainShuttle.clock.secondsIntoDay justBefore = .ok 0 := by decide +kernel
  obtain rfl : s = -3600 := Except.ok.inj (hb.seconds_eq.symm.trans hs)
  obtain rfl : s' = 0 := Except.ok.inj (hb'.seconds_eq.symm.trans hs')
  refine ⟨mountainShuttle_checked, hfirst, hsecond, b, b', hb, hb', fun hsame => ?_⟩
  have hwidth : mountainShuttle.clock.bucketWidth = 25200 := rfl
  obtain ⟨k, ⟨hle, -⟩, -, hlt⟩ := hiff.mp hsame
  rw [hwidth] at hle hlt
  omega

end Service

end Headway
