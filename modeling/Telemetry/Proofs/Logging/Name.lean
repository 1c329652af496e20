import Telemetry.Logging.Rotation
import Telemetry.Proofs.Text.Order
import Telemetry.Proofs.Time.Stamp
/-!
# Logging — the names of log files

The name of a log file ends with a time stamp in numbers of a fixed width, so the
names of one program are ordered as its runs are (`fileName_lt_fileName`). What
begins with the name of a program and a hyphen counts as its log; so do the logs of
another program whose name begins like that (`isLogOf_fileName_iff`).
-/

namespace Telemetry

open Text Time

/-! ## Numbers with leading zeros -/

/-- Of as many digits, the greater number is the greater text. -/
theorem Time.Stamp.lt_of_digitsValue_lt {ds es : List Char}
    (hds : ∀ c ∈ ds, c.isDigit = true) (hes : ∀ c ∈ es, c.isDigit = true)
    (hlength : ds.length = es.length) (h : digitsValue ds < digitsValue es) : ds < es := by
  induction ds generalizing es with
  | nil => simp_all [List.length_eq_zero_iff.1 hlength.symm]
  | cons d ds ih =>
    cases es with
    | nil => simp at hlength
    | cons e es =>
      have hrest := fun c hc => hds c (List.mem_cons_of_mem d hc)
      have hrest' := fun c hc => hes c (List.mem_cons_of_mem e hc)
      have hsame : ds.length = es.length := by simpa using hlength
      have hvalue := digitsValue_lt hrest
      have hd := Char.isDigit_iff_toNat.1 (hds d List.mem_cons_self)
      have he := Char.isDigit_iff_toNat.1 (hes e List.mem_cons_self)
      have hzero : '0'.toNat = 48 := rfl
      rw [digitsValue_cons, digitsValue_cons, ← hsame] at h
      rcases Nat.lt_trichotomy d.toNat e.toNat with hlt | heq | hgt
      · exact .rel hlt
      · obtain rfl := Char.toNat_inj.1 heq
        exact .cons (ih hrest hrest' hsame (by omega))
      · -- the first digit alone would make the first number the greater
        have hmul : (e.toNat - 48 + 1) * 10 ^ ds.length ≤ (d.toNat - 48) * 10 ^ ds.length :=
          Nat.mul_le_mul_right _ (by omega)
        have hvalue' := digitsValue_lt hrest'
        rw [← hsame] at hvalue'
        rw [Nat.add_mul] at hmul
        omega

theorem Time.Stamp.padded_lt_padded {width m n : Nat} (hwidth : 0 < width) (h : m < n)
    (hn : n < 10 ^ width) : Instant.padded width m < Instant.padded width n := by
  have hlength : (Instant.padded width m).length = (Instant.padded width n).length := by
    rw [length_padded hwidth (h.trans hn), length_padded hwidth hn]
  exact lt_of_digitsValue_lt (isDigit_of_mem_padded width m) (isDigit_of_mem_padded width n)
    hlength (by rwa [digitsValue_padded, digitsValue_padded])

/-- Numbers of one width decide, and if they are the same, what follows does. -/
theorem Time.Stamp.padded_append_lt {width m n : Nat} (hwidth : 0 < width) (hn : n < 10 ^ width)
    {x y : List Char} (h : m < n ∨ m = n ∧ x < y) :
    Instant.padded width m ++ x < Instant.padded width n ++ y := by
  rcases h with hlt | ⟨rfl, hrest⟩
  · refine append_lt_append ?_ (.inl (padded_lt_padded hwidth hlt hn))
    rw [length_padded hwidth (hlt.trans hn), length_padded hwidth hn]
  · exact List.append_left_lt hrest

namespace Logging

/-! ## Runs in order -/

namespace WallTime

/-- What a clock shows, from the year down to the second. -/
def fields (t : WallTime) : List Int :=
  [t.date.year, t.date.month, t.date.day, t.hour, t.minute, t.second]

/-- A time is earlier if the first field that differs is smaller. -/
instance : LT WallTime := ⟨fun t t' => t.fields < t'.fields⟩

instance (t t' : WallTime) : Decidable (t < t') :=
  inferInstanceAs (Decidable (t.fields < t'.fields))

/-- **A time that a clock can show** in a year of four digits. -/
structure Proper (t : WallTime) : Prop where
  date : t.date.Valid
  year_nonneg : 0 ≤ t.date.year
  year_le : t.date.year ≤ 9999
  hour : t.hour ≤ 23
  minute : t.minute ≤ 59
  second : t.second ≤ 60

instance (t : WallTime) : Decidable t.Proper :=
  decidable_of_iff (t.date.Valid ∧ 0 ≤ t.date.year ∧ t.date.year ≤ 9999 ∧ t.hour ≤ 23 ∧
      t.minute ≤ 59 ∧ t.second ≤ 60)
    ⟨fun ⟨hdate, hnonneg, hle, hhour, hminute, hsecond⟩ =>
      ⟨hdate, hnonneg, hle, hhour, hminute, hsecond⟩,
    fun ⟨hdate, hnonneg, hle, hhour, hminute, hsecond⟩ =>
      ⟨hdate, hnonneg, hle, hhour, hminute, hsecond⟩⟩

variable {t t' : WallTime}

/-- **Stamps are ordered as the times are.** -/
theorem stamp_lt_stamp (ht : t.Proper) (ht' : t'.Proper) (h : t < t') : t.stamp < t'.stamp := by
  obtain ⟨-, hmonth, -, hday⟩ := ht.date.bounds
  obtain ⟨-, hmonth', -, hday'⟩ := ht'.date.bounds
  have hyear := ht.year_nonneg
  have hyear' := ht'.year_nonneg
  have hfour := ht.year_le
  have hfour' := ht'.year_le
  have hclock := And.intro ht.hour (And.intro ht.minute ht.second)
  have hclock' := And.intro ht'.hour (And.intro ht'.minute ht'.second)
  have htext : Instant.yearText t.date.year = Instant.padded 4 t.date.year.toNat :=
    if_pos ⟨hyear, hfour⟩
  have htext' : Instant.yearText t'.date.year = Instant.padded 4 t'.date.year.toNat :=
    if_pos ⟨hyear', hfour'⟩
  have hfields : t.fields < t'.fields := h
  simp only [fields, List.cons_lt_cons_iff, List.not_lt_nil, and_false, or_false] at hfields
  simp only [stamp, htext, htext', List.append_assoc, List.cons_append]
  refine Stamp.padded_append_lt (by decide) (by omega)
    (hfields.imp (by omega) fun ⟨hsame, hfields⟩ => ⟨by omega, ?_⟩)
  refine Stamp.padded_append_lt (by decide) (by omega)
    (hfields.imp (by omega) fun ⟨hsame, hfields⟩ => ⟨by omega, ?_⟩)
  refine Stamp.padded_append_lt (by decide) (by omega)
    (hfields.imp (by omega) fun ⟨hsame, hfields⟩ => ⟨by omega, .cons ?_⟩)
  refine Stamp.padded_append_lt (by decide) (by omega)
    (hfields.imp (by omega) fun ⟨hsame, hfields⟩ => ⟨by omega, ?_⟩)
  refine Stamp.padded_append_lt (by decide) (by omega)
    (hfields.imp (by omega) fun ⟨hsame, hfields⟩ => ⟨by omega, ?_⟩)
  exact Stamp.padded_lt_padded (by decide) (by omega) (by omega)

/-- and all of one length. -/
theorem length_stamp (ht : t.Proper) : t.stamp.length = 15 := by
  obtain ⟨-, hmonth, -, hday⟩ := ht.date.bounds
  have hhour := ht.hour
  have hminute := ht.minute
  have hsecond := ht.second
  have hfour := ht.year_le
  have htwo : ∀ n, n < 100 → (Instant.padded 2 n).length = 2 := fun n hn =>
    Stamp.length_padded (by decide) hn
  have htext : Instant.yearText t.date.year = Instant.padded 4 t.date.year.toNat :=
    if_pos ⟨ht.year_nonneg, hfour⟩
  have hyear : (Instant.padded 4 t.date.year.toNat).length = 4 :=
    Stamp.length_padded (by decide) (by omega)
  simp only [stamp, htext, List.length_append, List.length_cons, hyear, htwo _
    (by omega : t.date.month < 100), htwo _ (by omega : t.date.day < 100), htwo _
    (by omega : t.hour < 100), htwo _ (by omega : t.minute < 100), htwo _
    (by omega : t.second < 100)]

end WallTime

theorem toList_fileName (app : String) (t : WallTime) :
    (fileName app t).toList = app.toList ++ '-' :: (t.stamp ++ ['.', 'l', 'o', 'g']) := by
  simp [fileName]

/-- **The names of one program are ordered as its runs are.** -/
theorem fileName_lt_fileName (app : String) {t t' : WallTime} (ht : t.Proper) (ht' : t'.Proper)
    (h : t < t') : fileName app t < fileName app t' := by
  rw [String.lt_iff_toList_lt, toList_fileName, toList_fileName]
  refine List.append_left_lt (.cons (append_lt_append ?_ (.inl (WallTime.stamp_lt_stamp ht ht' h))))
  rw [WallTime.length_stamp ht, WallTime.length_stamp ht']

/-! ## Whose log a name is -/

/-- **A name counts as a log of a program**, `app-*.log`: it begins with the name of
the program and a hyphen, and goes on to end with `.log`. -/
def IsLogOf (app name : String) : Prop :=
  ∃ middle : List Char, name.toList = app.toList ++ '-' :: (middle ++ ['.', 'l', 'o', 'g'])

theorem isLogOf_fileName (app : String) (t : WallTime) : IsLogOf app (fileName app t) :=
  ⟨t.stamp, toList_fileName app t⟩

/-- **One program's logs look like another's** if its name goes on from the name of
the other with a hyphen, or if it lacks one and its runs are before year 0, which is
written with a sign. -/
def LooksLike (app other : String) (t : WallTime) : Prop :=
  app = other ∨ (app.toList ++ ['-']) <+: other.toList ∨
    t.date.year < 0 ∧ app.toList = other.toList ++ ['-']

instance (app other : String) (t : WallTime) : Decidable (LooksLike app other t) :=
  inferInstanceAs (Decidable (app = other ∨ (app.toList ++ ['-']) <+: other.toList ∨
    t.date.year < 0 ∧ app.toList = other.toList ++ ['-']))

/-- Only the sign of a year is a hyphen. -/
theorem WallTime.stamp_eq (t : WallTime) : ∃ rest : List Char, '-' ∉ rest ∧
    t.stamp = if t.date.year < 0 then '-' :: rest else rest := by
  have hpadded : ∀ width n, '-' ∉ Instant.padded width n := fun width n hmem =>
    absurd (Stamp.isDigit_of_mem_padded width n '-' hmem) (by decide)
  by_cases hyear : t.date.year < 0
  · refine ⟨Instant.padded 4 t.date.year.natAbs ++ Instant.padded 2 t.date.month ++
      Instant.padded 2 t.date.day ++ '_' :: Instant.padded 2 t.hour ++
      Instant.padded 2 t.minute ++ Instant.padded 2 t.second, by simp [hpadded], ?_⟩
    rw [if_pos hyear, stamp, Instant.yearText, if_neg (by omega), if_pos hyear]
    rfl
  · refine ⟨t.stamp, ?_, (if_neg hyear).symm⟩
    rw [stamp, Instant.yearText]
    split <;> simp [hpadded]

/-- A text with a hyphen after it is where another one begins that has a hyphen in it:
it ends before that hyphen, at it, or behind it. -/
theorem prefix_append_hyphen_iff {p q rest : List Char} :
    p ++ ['-'] <+: q ++ '-' :: rest ↔
      p = q ∨ p ++ ['-'] <+: q ∨ ∃ more, p = q ++ '-' :: more ∧ more ++ ['-'] <+: rest := by
  induction q generalizing p with
  | nil =>
    cases p with
    | nil => simp
    | cons c p =>
      simp only [List.cons_append, List.nil_append, List.cons_prefix_cons, List.prefix_nil,
        List.cons_ne_nil, false_or, List.cons.injEq]
      constructor
      · rintro ⟨rfl, hrest⟩
        exact ⟨p, ⟨rfl, rfl⟩, hrest⟩
      · rintro ⟨more, ⟨rfl, rfl⟩, hrest⟩
        exact ⟨rfl, hrest⟩
  | cons d q ih =>
    cases p with
    | nil => simp
    | cons c p =>
      simp only [List.cons_append, List.cons_prefix_cons, ih, List.cons.injEq]
      constructor
      · rintro ⟨rfl, rfl | hq | ⟨more, rfl, hrest⟩⟩
        · exact .inl ⟨rfl, rfl⟩
        · exact .inr (.inl ⟨rfl, hq⟩)
        · exact .inr (.inr ⟨more, ⟨rfl, rfl⟩, hrest⟩)
      · rintro (⟨rfl, rfl⟩ | ⟨rfl, hq⟩ | ⟨more, ⟨rfl, rfl⟩, hrest⟩)
        · exact ⟨rfl, .inl rfl⟩
        · exact ⟨rfl, .inr (.inl hq)⟩
        · exact ⟨rfl, .inr (.inr ⟨more, rfl, hrest⟩)⟩

/-- **Whose log the file of a run is**: that of every program whose logs it looks
like. -/
theorem isLogOf_fileName_iff {app other : String} {t : WallTime} :
    IsLogOf app (fileName other t) ↔ LooksLike app other t := by
  obtain ⟨rest, hrest, hstamp⟩ := t.stamp_eq
  unfold IsLogOf LooksLike
  rw [toList_fileName]
  constructor
  · rintro ⟨middle, hname⟩
    have hprefix : app.toList ++ ['-'] <+:
        other.toList ++ '-' :: (t.stamp ++ ['.', 'l', 'o', 'g']) :=
      ⟨middle ++ ['.', 'l', 'o', 'g'], by rw [hname, List.append_assoc]; rfl⟩
    rcases prefix_append_hyphen_iff.1 hprefix with happ | hother | ⟨more, happ, hmore⟩
    · exact .inl (String.toList_inj.1 happ)
    · exact .inr (.inl hother)
    · -- the hyphen is in the time stamp
      have hend : '-' ∉ rest ++ ['.', 'l', 'o', 'g'] := by simp [hrest]
      rw [hstamp] at hmore
      by_cases hyear : t.date.year < 0
      · rw [if_pos hyear] at hmore
        cases more with
        | nil => exact .inr (.inr ⟨hyear, happ⟩)
        | cons c more =>
          rw [List.cons_append, List.cons_append, List.cons_prefix_cons] at hmore
          exact absurd (hmore.2.subset (by simp)) hend
      · rw [if_neg hyear] at hmore
        exact absurd (hmore.subset (by simp)) hend
  · rintro (rfl | ⟨more, hother⟩ | ⟨hyear, happ⟩)
    · exact ⟨t.stamp, rfl⟩
    · exact ⟨more ++ '-' :: t.stamp, by simp [← hother]⟩
    · exact ⟨rest, by simp [happ, hstamp, hyear]⟩

end Logging

end Telemetry
