import Mathlib.Data.List.TakeWhile
import Waybill.Proofs.Json.Grammar

/-!
# Reading numbers

The reader of numbers takes what the grammar calls a number, all of it, and finds every number whose
end can be told from the byte behind it. What it reads depends on the bytes of the number alone.

Numbers and blanks are runs of bytes of one kind, so the lemmas about cursors come first.

## Main results

* `Waybill.Json.exists_blanks`, `Waybill.Json.skipBlanks_append`: the blanks at a cursor.
* `Waybill.Json.isNumber_of_readNumber`: what is read is a number that does not go on.
* `Waybill.Json.exists_readNumber`: a number that does not go on is read.
-/

namespace Waybill.Json

/-! ### Runs of bytes -/

theorem exists_run (kind : UInt8 → Bool) (bs : List UInt8) :
    ∃ run rest, bs = run ++ rest ∧ (∀ b ∈ run, kind b = true) ∧ Stops kind rest := by
  refine ⟨bs.takeWhile kind, bs.dropWhile kind, List.takeWhile_append_dropWhile.symm,
    fun b hb => List.mem_takeWhile_imp hb, fun b hb => ?_⟩
  have hnot := List.head?_dropWhile_not kind bs
  rw [Option.mem_def.mp hb] at hnot
  simpa using hnot

/-- The run that bytes start with is all that is taken of them. -/
theorem takeWhile_append {kind : UInt8 → Bool} {run rest : List UInt8}
    (hrun : ∀ b ∈ run, kind b = true) (hrest : Stops kind rest) :
    (run ++ rest).takeWhile kind = run := by
  rw [List.takeWhile_append_of_pos hrun]
  cases rest with
  | nil => simp
  | cons b rest => simp [stops_cons.mp hrest]

theorem advance_append (o : Nat) (bs rest : List UInt8) :
    (⟨o, bs ++ rest⟩ : Cursor).advance bs.length = ⟨o + bs.length, rest⟩ := by
  rw [Cursor.advance, List.drop_left]

theorem advance_cons (o : Nat) (b : UInt8) (rest : List UInt8) :
    (⟨o, b :: rest⟩ : Cursor).advance 1 = ⟨o + 1, rest⟩ := rfl

theorem skipBlanks_append {blanks rest : List UInt8} (hblanks : IsBlanks blanks)
    (hrest : Stops isBlank rest) (o : Nat) :
    (⟨o, blanks ++ rest⟩ : Cursor).skipBlanks = ⟨o + blanks.length, rest⟩ := by
  rw [Cursor.skipBlanks, takeWhile_append hblanks hrest, advance_append]

/-- What is skipped are blanks, all of them. -/
theorem exists_blanks (c : Cursor) :
    ∃ blanks, IsBlanks blanks ∧ c.rest = blanks ++ c.skipBlanks.rest ∧
      Stops isBlank c.skipBlanks.rest := by
  obtain ⟨o, rest⟩ := c
  obtain ⟨blanks, rest, rfl, hblanks, hrest⟩ := exists_run isBlank rest
  rw [skipBlanks_append hblanks hrest]
  exact ⟨blanks, hblanks, rfl, hrest⟩

theorem digitsAt_append {ds rest : List UInt8} (hds : ∀ b ∈ ds, isDigit b = true)
    (hrest : Stops isDigit rest) (o : Nat) :
    digitsAt ⟨o, ds ++ rest⟩ = ds.map fun b => b.toNat - 0x30 := by
  rw [digitsAt, takeWhile_append hds hrest]

theorem not_point_of_isDigit {b : UInt8} (h : isDigit b = true) :
    (b == 0x2E || isExponentMark b) = false := by
  simp only [isDigit, Bool.and_eq_true, decide_eq_true_eq, UInt8.le_iff_toNat_le,
    UInt8.reduceToNat] at h
  simp only [isExponentMark, Bool.or_eq_false_iff, beq_eq_false_iff_ne, ne_eq,
    ← UInt8.toNat_inj, UInt8.reduceToNat]
  omega

/-! ### Exponents -/

/-- An exponent that does not go on, or no exponent where none starts. -/
structure ExponentEnds (exponent rest : List UInt8) : Prop where
  digit : Stops isDigit rest
  mark : exponent = [] → Stops isExponentMark rest

/-- The sign of an exponent, and the cursor after it. -/
def signAt (c : Cursor) : Bool × Cursor :=
  match c.rest with
  | 0x2D :: _ => (true, c.advance 1)
  | 0x2B :: _ => (false, c.advance 1)
  | _ => (false, c)

/-- The digits of an exponent. -/
def scanPower (p : NumberParts) (sign : Bool × Cursor) : NumberScan :=
  let ds := digitsAt sign.2
  if ds.isEmpty then .error (endOfNumber sign.2)
  else .ok ({ p with exponent := some (sign.1, ds) }, sign.2.advance ds.length)

theorem scanExponent_cons (p : NumberParts) (o : Nat) (b : UInt8) (rest : List UInt8) :
    scanExponent p ⟨o, b :: rest⟩ =
      if isExponentMark b then scanPower p (signAt ⟨o + 1, rest⟩) else .ok (p, ⟨o, b :: rest⟩) :=
  rfl

theorem exists_signAt (o : Nat) (bs : List UInt8) :
    ∃ sign rest, (sign = [] ∨ sign = [0x2B] ∨ sign = [0x2D]) ∧ bs = sign ++ rest ∧
      ∃ small, signAt ⟨o, bs⟩ = (small, ⟨o + sign.length, rest⟩) := by
  unfold signAt
  split
  · rename_i rest heq
    obtain rfl : bs = 0x2D :: rest := heq
    exact ⟨[0x2D], rest, .inr (.inr rfl), rfl, true, rfl⟩
  · rename_i rest heq
    obtain rfl : bs = 0x2B :: rest := heq
    exact ⟨[0x2B], rest, .inr (.inl rfl), rfl, false, rfl⟩
  · exact ⟨[], bs, .inl rfl, rfl, false, rfl⟩

/-- A sign before a digit is found. -/
theorem exists_signAt_append {sign : List UInt8}
    (hsign : sign = [] ∨ sign = [0x2B] ∨ sign = [0x2D]) (o : Nat) :
    ∃ small, ∀ d rest, isDigit d = true →
      signAt ⟨o, sign ++ d :: rest⟩ = (small, ⟨o + sign.length, d :: rest⟩) := by
  rcases hsign with rfl | rfl | rfl
  · refine ⟨false, fun d rest hd => ?_⟩
    unfold signAt
    split
    · rename_i heq
      obtain ⟨rfl, -⟩ := List.cons.inj heq
      cases hd
    · rename_i heq
      obtain ⟨rfl, -⟩ := List.cons.inj heq
      cases hd
    · rfl
  · exact ⟨false, fun d rest _ => rfl⟩
  · exact ⟨true, fun d rest _ => rfl⟩

theorem scanPower_append {ds : List UInt8} (hds : IsDigits ds) {rest : List UInt8}
    (hrest : Stops isDigit rest) (p : NumberParts) (small : Bool) (o : Nat) :
    scanPower p (small, ⟨o, ds ++ rest⟩) =
      .ok ({ p with exponent := some (small, ds.map fun b => b.toNat - 0x30) },
        ⟨o + ds.length, rest⟩) := by
  have hlen : (ds.map fun b => b.toNat - 0x30).length = ds.length := List.length_map _
  simp only [scanPower, digitsAt_append hds.2 hrest, List.isEmpty_map, List.isEmpty_iff, hds.1,
    if_false, hlen, advance_append]

/-- What is read behind the digits of a number is an exponent. -/
theorem isExponent_of_scanExponent {p q : NumberParts} {c after : Cursor}
    (hdigit : Stops isDigit c.rest) (h : scanExponent p c = .ok (q, after)) :
    ∃ exponent, IsExponent exponent ∧ c.rest = exponent ++ after.rest ∧
      ExponentEnds exponent after.rest := by
  obtain ⟨o, bs⟩ := c
  cases bs with
  | nil =>
    obtain ⟨-, rfl⟩ := Prod.mk.inj (Except.ok.inj h)
    exact ⟨[], .none, rfl, ⟨hdigit, fun _ => stops_nil _⟩⟩
  | cons b bs =>
    rw [scanExponent_cons] at h
    split at h
    case isFalse hmark =>
      obtain ⟨-, rfl⟩ := Prod.mk.inj (Except.ok.inj h)
      exact ⟨[], .none, rfl, ⟨hdigit, fun _ => stops_cons.mpr (by simpa using hmark)⟩⟩
    case isTrue hmark =>
      obtain ⟨sign, rest, hsign, rfl, small, hat⟩ := exists_signAt (o + 1) bs
      obtain ⟨ds, rest, rfl, hds, hstop⟩ := exists_run isDigit rest
      rw [hat] at h
      by_cases hempty : ds = []
      · have hnone : digitsAt ⟨o + 1 + sign.length, ds ++ rest⟩ = [] := by
          rw [digitsAt_append hds hstop, hempty, List.map_nil]
        simp [scanPower, hnone] at h
      · rw [scanPower_append ⟨hempty, hds⟩ hstop] at h
        obtain ⟨-, rfl⟩ := Prod.mk.inj (Except.ok.inj h)
        exact ⟨b :: (sign ++ ds), .digits hmark hsign ⟨hempty, hds⟩, by simp, hstop, by simp⟩

theorem exists_scanExponent {exponent : List UInt8} (h : IsExponent exponent) (p : NumberParts)
    (o : Nat) :
    ∃ q, ∀ rest, ExponentEnds exponent rest →
      scanExponent p ⟨o, exponent ++ rest⟩ = .ok (q, ⟨o + exponent.length, rest⟩) := by
  cases h with
  | none =>
    refine ⟨p, fun rest hrest => ?_⟩
    cases rest with
    | nil => rfl
    | cons b rest =>
      rw [List.nil_append, scanExponent_cons, stops_cons.mp (hrest.mark rfl)]
      rfl
  | @digits mark sign ds hmark hsign hds =>
    obtain ⟨small, hat⟩ := exists_signAt_append hsign (o + 1)
    refine ⟨{ p with exponent := some (small, ds.map fun b => b.toNat - 0x30) },
      fun rest hrest => ?_⟩
    obtain ⟨d, ds', hcons⟩ := List.exists_cons_of_ne_nil hds.1
    have hd : isDigit d = true := hds.2 d (hcons ▸ List.mem_cons_self)
    have hsigned : signAt ⟨o + 1, sign ++ (ds ++ rest)⟩ =
        (small, ⟨o + 1 + sign.length, ds ++ rest⟩) := by
      rw [hcons]
      exact hat d (ds' ++ rest) hd
    rw [List.cons_append, List.append_assoc, scanExponent_cons, if_pos hmark, hsigned,
      scanPower_append hds hrest.digit]
    have hoffset : o + 1 + sign.length + ds.length = o + (mark :: (sign ++ ds)).length := by
      simp only [List.length_cons, List.length_append]
      omega
    rw [hoffset]

/-! ### Fractions -/

/-- A fraction and an exponent that do not go on, or none where none starts. -/
structure FractionEnds (fraction exponent rest : List UInt8) : Prop
    extends ExponentEnds exponent rest where
  point : fraction = [] → exponent = [] → Stops (· == 0x2E) rest

/-- The digits behind a point, and the exponent. -/
def scanPlaces (p : NumberParts) (c : Cursor) : NumberScan :=
  let ds := digitsAt c
  if ds.isEmpty then .error (endOfNumber c)
  else scanExponent { p with fraction := some ds } (c.advance ds.length)

theorem scanFraction_point (p : NumberParts) (o : Nat) (rest : List UInt8) :
    scanFraction p ⟨o, 0x2E :: rest⟩ = scanPlaces p ⟨o + 1, rest⟩ := rfl

theorem scanFraction_of_stops (p : NumberParts) (o : Nat) {rest : List UInt8}
    (h : Stops (· == 0x2E) rest) : scanFraction p ⟨o, rest⟩ = scanExponent p ⟨o, rest⟩ := by
  unfold scanFraction
  split
  · rename_i heq
    obtain rfl := heq
    cases stops_cons.mp h
  · rfl

theorem scanPlaces_append {ds : List UInt8} (hds : IsDigits ds) {rest : List UInt8}
    (hrest : Stops isDigit rest) (p : NumberParts) (o : Nat) :
    scanPlaces p ⟨o, ds ++ rest⟩ =
      scanExponent { p with fraction := some (ds.map fun b => b.toNat - 0x30) }
        ⟨o + ds.length, rest⟩ := by
  have hlen : (ds.map fun b => b.toNat - 0x30).length = ds.length := List.length_map _
  simp only [scanPlaces, digitsAt_append hds.2 hrest, List.isEmpty_map, List.isEmpty_iff, hds.1,
    if_false, hlen, advance_append]

theorem stops_of_isExponent {kind : UInt8 → Bool}
    (hkind : ∀ b, isExponentMark b = true → kind b = false) {exponent rest : List UInt8}
    (he : IsExponent exponent) (hrest : exponent = [] → Stops kind rest) :
    Stops kind (exponent ++ rest) := by
  cases he with
  | none => exact hrest rfl
  | digits hmark => exact stops_cons.mpr (hkind _ hmark)

theorem isDigit_of_isExponentMark (b : UInt8) (h : isExponentMark b = true) :
    isDigit b = false := by
  cases hd : isDigit b with
  | false => rfl
  | true =>
    have hnot := (Bool.or_eq_false_iff.mp (not_point_of_isDigit hd)).2
    rw [h] at hnot
    cases hnot

theorem not_point_of_isExponentMark (b : UInt8) (h : isExponentMark b = true) :
    (b == 0x2E) = false := by
  rcases Bool.or_eq_true_iff.mp h with h | h
  all_goals
    rw [eq_of_beq h]
    rfl

/-- What is read behind the whole part of a number is a fraction and an exponent. -/
theorem isFraction_of_scanFraction {p q : NumberParts} {c after : Cursor}
    (hdigit : Stops isDigit c.rest) (h : scanFraction p c = .ok (q, after)) :
    ∃ fraction exponent, IsFraction fraction ∧ IsExponent exponent ∧
      c.rest = fraction ++ (exponent ++ after.rest) ∧
      FractionEnds fraction exponent after.rest := by
  obtain ⟨o, bs⟩ := c
  by_cases hpoint : Stops (· == 0x2E) bs
  case pos =>
    rw [scanFraction_of_stops p o hpoint] at h
    obtain ⟨exponent, he, hbs, hends⟩ := isExponent_of_scanExponent hdigit h
    refine ⟨[], exponent, .none, he, hbs, hends, fun _ hempty => ?_⟩
    obtain rfl := hempty
    obtain rfl : bs = after.rest := hbs
    exact hpoint
  case neg =>
    obtain ⟨rest, rfl⟩ : ∃ rest, bs = 0x2E :: rest := by
      cases bs with
      | nil => exact absurd (stops_nil _) hpoint
      | cons b rest =>
        rw [stops_cons, Bool.not_eq_false] at hpoint
        exact ⟨rest, by rw [eq_of_beq hpoint]⟩
    obtain ⟨ds, rest, rfl, hds, hstop⟩ := exists_run isDigit rest
    rw [scanFraction_point] at h
    by_cases hempty : ds = []
    · have hnone : digitsAt ⟨o + 1, ds ++ rest⟩ = [] := by
        rw [digitsAt_append hds hstop, hempty, List.map_nil]
      simp [scanPlaces, hnone] at h
    · rw [scanPlaces_append ⟨hempty, hds⟩ hstop] at h
      obtain ⟨exponent, he, hrest, hends⟩ := isExponent_of_scanExponent hstop h
      obtain rfl : rest = exponent ++ after.rest := hrest
      exact ⟨0x2E :: ds, exponent, .digits ⟨hempty, hds⟩, he, by simp, hends, by simp⟩

theorem exists_scanFraction {fraction exponent : List UInt8} (hf : IsFraction fraction)
    (he : IsExponent exponent) (p : NumberParts) (o : Nat) :
    ∃ q, ∀ rest, FractionEnds fraction exponent rest →
      scanFraction p ⟨o, fraction ++ (exponent ++ rest)⟩ =
        .ok (q, ⟨o + fraction.length + exponent.length, rest⟩) := by
  cases hf with
  | none =>
    obtain ⟨q, hq⟩ := exists_scanExponent he p o
    refine ⟨q, fun rest hrest => ?_⟩
    have hpoint : Stops (· == 0x2E) (exponent ++ rest) :=
      stops_of_isExponent not_point_of_isExponentMark he (hrest.point rfl)
    rw [List.nil_append, scanFraction_of_stops p o hpoint]
    exact hq rest hrest.toExponentEnds
  | @digits ds hds =>
    obtain ⟨q, hq⟩ := exists_scanExponent he
      { p with fraction := some (ds.map fun b => b.toNat - 0x30) } (o + 1 + ds.length)
    refine ⟨q, fun rest hrest => ?_⟩
    have hdigit : Stops isDigit (exponent ++ rest) :=
      stops_of_isExponent isDigit_of_isExponentMark he fun _ => hrest.digit
    rw [List.cons_append, scanFraction_point, scanPlaces_append hds hdigit,
      hq rest hrest.toExponentEnds]
    have hoffset : o + 1 + ds.length = o + (0x2E :: ds).length := by
      rw [List.length_cons]
      omega
    rw [hoffset]

/-! ### Unsigned numbers -/

theorem stops_isDigit_fraction {fraction exponent rest : List UInt8} (hf : IsFraction fraction)
    (he : IsExponent exponent) (hrest : Stops isDigit rest) :
    Stops isDigit (fraction ++ (exponent ++ rest)) := by
  cases hf with
  | none =>
    rw [List.nil_append]
    exact stops_of_isExponent isDigit_of_isExponentMark he fun _ => hrest
  | digits => exact stops_cons.mpr rfl

theorem forall_isDigit_of_isWhole {whole : List UInt8} (h : IsWhole whole) :
    ∀ b ∈ whole, isDigit b = true := by
  cases h with
  | zero => simp [isDigit]
  | digits hds => exact hds.2

/-- A whole part of a number is followed by its fraction. -/
theorem scanUnsigned_append {whole rest : List UInt8} (h : IsWhole whole)
    (hrest : Stops isDigit rest) (negative : Bool) (o : Nat) :
    scanUnsigned negative ⟨o, whole ++ rest⟩ =
      scanFraction ⟨negative, whole.map fun b => b.toNat - 0x30, none, none⟩
        ⟨o + whole.length, rest⟩ := by
  cases h with
  | zero =>
    have hnone : digitsAt ⟨o + 1, rest⟩ = [] :=
      digitsAt_append (by simp : ∀ b ∈ ([] : List UInt8), isDigit b = true) hrest (o + 1)
    have hstep : scanUnsigned negative ⟨o, [0x30] ++ rest⟩ =
        if (digitsAt ⟨o + 1, rest⟩).isEmpty then
          scanFraction ⟨negative, [0], none, none⟩ ⟨o + 1, rest⟩
        else .error (Cursor.fault ⟨o + 1, rest⟩ .invalidNumber,
          Cursor.fault ⟨o + 1, rest⟩ .invalidNumber) := rfl
    rw [hstep, hnone]
    rfl
  | digits hds hzero =>
    obtain ⟨d, ds, rfl⟩ := List.exists_cons_of_ne_nil hds.1
    have hlen : ((d :: ds).map fun b => b.toNat - 0x30).length = (d :: ds).length :=
      List.length_map _
    unfold scanUnsigned
    split
    · rename_i heq
      obtain ⟨rfl, -⟩ := List.cons.inj heq
      exact absurd rfl hzero
    · simp only [digitsAt_append hds.2 hrest, List.isEmpty_map, List.isEmpty_iff, hds.1, if_false,
        hlen, advance_append]

/-- What is read of a number without its sign. -/
theorem isWhole_of_scanUnsigned {negative : Bool} {q : NumberParts} {c after : Cursor}
    (h : scanUnsigned negative c = .ok (q, after)) :
    ∃ whole fraction exponent, IsWhole whole ∧ IsFraction fraction ∧ IsExponent exponent ∧
      c.rest = whole ++ (fraction ++ (exponent ++ after.rest)) ∧
      FractionEnds fraction exponent after.rest := by
  obtain ⟨o, bs⟩ := c
  obtain ⟨ds, rest, rfl, hds, hstop⟩ := exists_run isDigit bs
  have hwhole : IsWhole ds := by
    by_cases hzero : ds.head? = some 0x30
    case neg =>
      refine .digits ⟨?_, hds⟩ hzero
      rintro rfl
      have hnone : digitsAt ⟨o, rest⟩ = [] := digitsAt_append hds hstop o
      rw [List.nil_append] at h
      unfold scanUnsigned at h
      split at h
      · rename_i heq
        obtain rfl : rest = _ := heq
        cases stops_cons.mp hstop
      · simp [hnone] at h
    case pos =>
      obtain ⟨ds, rfl⟩ := List.head?_eq_some_iff.mp hzero
      have hds' : ∀ b ∈ ds, isDigit b = true := fun b hb => hds b (List.mem_cons_of_mem _ hb)
      have hstep : scanUnsigned negative ⟨o, 0x30 :: ds ++ rest⟩ =
          if (digitsAt ⟨o + 1, ds ++ rest⟩).isEmpty then
            scanFraction ⟨negative, [0], none, none⟩ ⟨o + 1, ds ++ rest⟩
          else .error (Cursor.fault ⟨o + 1, ds ++ rest⟩ .invalidNumber,
            Cursor.fault ⟨o + 1, ds ++ rest⟩ .invalidNumber) := rfl
      rw [hstep, digitsAt_append hds' hstop] at h
      cases ds with
      | nil => exact .zero
      | cons d ds => cases h
  rw [scanUnsigned_append hwhole hstop] at h
  obtain ⟨fraction, exponent, hf, he, hrest, hends⟩ := isFraction_of_scanFraction hstop h
  obtain rfl : rest = fraction ++ (exponent ++ after.rest) := hrest
  exact ⟨ds, fraction, exponent, hwhole, hf, he, rfl, hends⟩

/-! ### Numbers -/

theorem not_point_of_isWhole {whole : List UInt8} (h : IsWhole whole) :
    ∀ b ∈ whole, (b == 0x2E || isExponentMark b) = false :=
  fun b hb => not_point_of_isDigit (forall_isDigit_of_isWhole h b hb)

theorem any_isExponentMark {fraction exponent : List UInt8} (hf : IsFraction fraction)
    (he : IsExponent exponent) :
    (fraction ++ exponent).any isExponentMark = !exponent.isEmpty := by
  have hfraction : fraction.any isExponentMark = false := by
    cases hf with
    | none => rfl
    | @digits ds hds =>
      rw [List.any_cons, show isExponentMark 0x2E = false from rfl, Bool.false_or,
        List.any_eq_false]
      intro d hd
      simp [(Bool.or_eq_false_iff.mp (not_point_of_isDigit (hds.2 d hd))).2]
  rw [List.any_append, hfraction, Bool.false_or]
  cases he with
  | none => rfl
  | digits hmark => simp [hmark]

theorem any_point_or_isExponentMark {fraction exponent : List UInt8} (hf : IsFraction fraction)
    (he : IsExponent exponent) :
    ((fraction ++ exponent).any fun m => m == 0x2E || isExponentMark m) =
      !(fraction.isEmpty && exponent.isEmpty) := by
  cases hf with
  | digits => rfl
  | none =>
    cases he with
    | none => rfl
    | digits hmark => simp [hmark]

theorem isOpenTo_number {sign whole fraction exponent : List UInt8}
    (hsign : sign = [] ∨ sign = [0x2D]) (hwhole : IsWhole whole) (hf : IsFraction fraction)
    (he : IsExponent exponent) (b : UInt8) :
    isOpenTo (sign ++ (whole ++ (fraction ++ exponent))) b =
      (isDigit b || (isExponentMark b && exponent.isEmpty) ||
        (b == 0x2E && (fraction.isEmpty && exponent.isEmpty))) := by
  have hminus : ∀ m ∈ sign, (m == 0x2E || isExponentMark m) = false := by
    rcases hsign with rfl | rfl
    · simp
    · simp [isExponentMark]
  rw [isOpenTo_append_of_forall hminus, isOpenTo_append_of_forall (not_point_of_isWhole hwhole),
    isOpenTo, any_isExponentMark hf he, any_point_or_isExponentMark hf he, Bool.not_not,
    Bool.not_not]

/-- A number does not go on if its last parts do not. -/
theorem stops_isOpenTo_iff {sign whole fraction exponent rest : List UInt8}
    (hsign : sign = [] ∨ sign = [0x2D]) (hwhole : IsWhole whole) (hf : IsFraction fraction)
    (he : IsExponent exponent) :
    Stops (isOpenTo (sign ++ (whole ++ (fraction ++ exponent)))) rest ↔
      FractionEnds fraction exponent rest := by
  cases rest with
  | nil => exact ⟨fun _ => ⟨⟨stops_nil _, fun _ => stops_nil _⟩, fun _ _ => stops_nil _⟩,
      fun _ => stops_nil _⟩
  | cons b rest =>
    rw [stops_cons, isOpenTo_number hsign hwhole hf he, Bool.or_eq_false_iff,
      Bool.or_eq_false_iff]
    constructor
    · rintro ⟨⟨hdigit, hmark⟩, hpoint⟩
      refine ⟨⟨stops_cons.mpr hdigit, ?_⟩, ?_⟩
      · rintro rfl
        simpa using hmark
      · rintro rfl rfl
        simpa using hpoint
    · intro h
      refine ⟨⟨stops_cons.mp h.digit, ?_⟩, ?_⟩
      · cases exponent with
        | nil => simpa using h.mark rfl
        | cons => simp
      · cases exponent with
        | nil =>
          cases fraction with
          | nil => simpa using h.point rfl rfl
          | cons => simp
        | cons => simp

/-- The sign of a number, and the scan of what is behind it. -/
def scanNumber (c : Cursor) : NumberScan :=
  match c.rest with
  | 0x2D :: _ => scanUnsigned true (c.advance 1)
  | _ => scanUnsigned false c

/-- What is scanned is a number that does not go on. -/
theorem isNumber_of_scanNumber {q : NumberParts} {c after : Cursor}
    (h : scanNumber c = .ok (q, after)) :
    ∃ number, IsNumber number ∧ c.rest = number ++ after.rest ∧
      Stops (isOpenTo number) after.rest := by
  have hsign : ∃ sign negative o rest, (sign = [] ∨ sign = [0x2D]) ∧ c.rest = sign ++ rest ∧
      scanUnsigned negative ⟨o, rest⟩ = .ok (q, after) := by
    obtain ⟨o, bs⟩ := c
    unfold scanNumber at h
    split at h
    · rename_i rest heq
      exact ⟨[0x2D], true, o + 1, rest, .inr rfl, heq, by obtain rfl := heq; exact h⟩
    · exact ⟨[], false, o, bs, .inl rfl, rfl, h⟩
  obtain ⟨sign, negative, o, rest, hsign, hrest, h⟩ := hsign
  obtain ⟨whole, fraction, exponent, hwhole, hf, he, hbytes, hends⟩ := isWhole_of_scanUnsigned h
  obtain rfl : rest = _ := hbytes
  exact ⟨sign ++ (whole ++ (fraction ++ exponent)), .parts hsign hwhole hf he, by simp [hrest],
    (stops_isOpenTo_iff hsign hwhole hf he).mpr hends⟩

/-- A number that does not go on is scanned. -/
theorem exists_scanNumber {number : List UInt8} (h : IsNumber number) (o : Nat) :
    ∃ q, ∀ rest, Stops (isOpenTo number) rest →
      scanNumber ⟨o, number ++ rest⟩ = .ok (q, ⟨o + number.length, rest⟩) := by
  obtain @⟨sign, whole, fraction, exponent, hsign, hwhole, hf, he⟩ := h
  obtain ⟨q, hq⟩ := exists_scanFraction hf he
    ⟨!sign.isEmpty, whole.map fun b => b.toNat - 0x30, none, none⟩
    (o + sign.length + whole.length)
  refine ⟨q, fun rest hrest => ?_⟩
  have hends := (stops_isOpenTo_iff hsign hwhole hf he).mp hrest
  have hunsigned : scanUnsigned (!sign.isEmpty)
      ⟨o + sign.length, whole ++ (fraction ++ (exponent ++ rest))⟩ =
        .ok (q, ⟨o + sign.length + whole.length + fraction.length + exponent.length, rest⟩) := by
    rw [scanUnsigned_append hwhole (stops_isDigit_fraction hf he hends.digit)]
    exact hq rest hends
  have hoffset : o + sign.length + whole.length + fraction.length + exponent.length =
      o + (sign ++ (whole ++ (fraction ++ exponent))).length := by
    simp only [List.length_append]
    omega
  have hbytes : sign ++ (whole ++ (fraction ++ exponent)) ++ rest =
      sign ++ (whole ++ (fraction ++ (exponent ++ rest))) := by simp
  rw [hbytes, ← hoffset, ← hunsigned]
  rcases hsign with rfl | rfl
  · -- A whole part does not start with the sign.
    unfold scanNumber
    split
    · rename_i tail heq
      have hminus : (0x2D : UInt8) ∈ whole := by
        cases hwhole with
        | zero => cases heq
        | digits hds =>
          obtain ⟨d, ds, rfl⟩ := List.exists_cons_of_ne_nil hds.1
          rw [(List.cons.inj heq).1]
          exact List.mem_cons_self
      cases forall_isDigit_of_isWhole hwhole _ hminus
    · rfl
  · rfl

/-- A scan as a leaf that starts somewhere, and the cursor after it. -/
def leafOfScan (start : Nat) : NumberScan → Leaf Number × Option Cursor
  | .error (wanted, passed) => (⟨start, .error wanted, .error passed⟩, none)
  | .ok (parts, after) =>
    (⟨start, match Number.ofParts? parts with
      | some n => .ok n
      | none => .error ⟨.numberOutOfRange, after.offset - unreadExponent parts⟩,
      .ok after.offset⟩, some after)

theorem readNumber_eq (c : Cursor) : readNumber c = leafOfScan c.offset (scanNumber c) := rfl

/-- **What is read is a number that does not go on.** -/
theorem isNumber_of_readNumber {c : Cursor} {leaf : Leaf Number} {after? : Option Cursor} {n : Nat}
    (h : readNumber c = (leaf, after?)) (hpassed : leaf.passed = .ok n) :
    ∃ after number, after? = some after ∧ IsNumber number ∧ c.rest = number ++ after.rest ∧
      Stops (isOpenTo number) after.rest := by
  rw [readNumber_eq] at h
  cases hscan : scanNumber c with
  | error faults =>
    rw [hscan] at h
    obtain ⟨rfl, -⟩ := Prod.mk.inj h
    cases hpassed
  | ok read =>
    obtain ⟨q, after⟩ := read
    rw [hscan] at h
    obtain ⟨number, hnumber, hrest, hstop⟩ := isNumber_of_scanNumber hscan
    exact ⟨after, number, (Prod.mk.inj h).2.symm, hnumber, hrest, hstop⟩

theorem exists_passed_of_readNumber {c : Cursor} {leaf : Leaf Number} {after? : Option Cursor}
    {n : Number} (h : readNumber c = (leaf, after?)) (hvalue : leaf.value = .ok n) :
    ∃ stop, leaf.passed = .ok stop := by
  rw [readNumber_eq] at h
  cases hscan : scanNumber c with
  | error faults =>
    rw [hscan] at h
    obtain ⟨rfl, -⟩ := Prod.mk.inj h
    cases hvalue
  | ok read =>
    rw [hscan] at h
    obtain ⟨rfl, -⟩ := Prod.mk.inj h
    exact ⟨_, rfl⟩

/-- **A number that does not go on is read.** -/
theorem exists_readNumber {number : List UInt8} (h : IsNumber number) (o : Nat) :
    ∃ leaf, ∀ rest, Stops (isOpenTo number) rest →
      readNumber ⟨o, number ++ rest⟩ = (leaf, some ⟨o + number.length, rest⟩) := by
  obtain ⟨q, hq⟩ := exists_scanNumber h o
  refine ⟨(leafOfScan o (.ok (q, ⟨o + number.length, []⟩))).1, fun rest hrest => ?_⟩
  rw [readNumber_eq, hq rest hrest]
  rfl

end Waybill.Json
