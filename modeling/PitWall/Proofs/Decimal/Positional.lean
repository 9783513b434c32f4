import PitWall.Proofs.Decimal.Digits
import PitWall.Proofs.Sheet.Terms
import PitWall.Proofs.Sheet.Written

namespace PitWall.Decimal
open Sheet

-- What a decimal stands for: its digits as one count, scaled by the exponent behind an e and by the places behind the point.
def exponentValue : List Char → Int
  | '-' :: digits => -countValue digits
  | '+' :: digits => countValue digits
  | digits => countValue digits

def decimalValue (text : List Char) : ℚ :=
  let mantissa := text.takeWhile (· ≠ 'e')
  let exponent := exponentValue ((text.dropWhile (· ≠ 'e')).drop 1)
  let places := ((mantissa.dropWhile (· ≠ '.')).drop 1).length
  countValue (mantissa.filter isDigit) * 10 ^ (exponent - places)

structure Written.InDigits (w : Written) : Prop where
  front : w.whole ≠ []
  digits : ∀ c ∈ w.whole ++ w.fraction, isDigit c = true

def Written.value (w : Written) : ℚ :=
  countValue (w.whole ++ w.fraction) * 10 ^ (w.exponent.getD 0 - w.fraction.length : Int)

theorem ne_point {c : Char} (digit : isDigit c = true) : c ≠ '.' := by
  rintro rfl
  rw [isDigit_point] at digit
  cases digit

theorem isDigit_e : isDigit 'e' = false := by decide

section
variable {whole fraction : List Char}

theorem mem_pointed {c : Char} (inside : c ∈ pointed whole fraction) : c ∈ whole ++ fraction ∨ c = '.' := by
  unfold pointed at inside
  split at inside
  · exact .inl (List.mem_append_left _ inside)
  · simp only [List.mem_append,List.mem_cons] at inside ⊢
    tauto

variable (digits : ∀ c ∈ whole ++ fraction, isDigit c = true)
include digits

theorem pointed_parts : (pointed whole fraction).filter isDigit = whole ++ fraction ∧
    ((pointed whole fraction).dropWhile (· ≠ '.')).drop 1 = fraction := by
  have front : ∀ c ∈ whole, decide (c ≠ '.') = true := fun c inside =>
    decide_eq_true (ne_point (digits c (List.mem_append_left _ inside)))
  by_cases entire : fraction = []
  · subst entire
    rw [List.append_nil] at digits ⊢
    have unpointed : (pointed whole []).dropWhile (fun c => decide (c ≠ '.')) = [] := List.dropWhile_eq_nil_iff.mpr front
    exact ⟨List.filter_eq_self.mpr digits,by rw [unpointed]; rfl⟩
  · have shape : pointed whole fraction = whole ++ '.' :: fraction := by simp [pointed,entire]
    have behind : (whole ++ '.' :: fraction).dropWhile (fun c => decide (c ≠ '.')) = '.' :: fraction :=
      dropWhile_run front (by simp)
    rw [shape]
    refine ⟨?_,by rw [behind]; rfl⟩
    rw [List.filter_append,List.filter_cons_of_neg (by decide),← List.filter_append]
    exact List.filter_eq_self.mpr digits

theorem decimalValue_pointed (tail : List Char) (set : ∀ c ∈ tail.head?, c = 'e') :
    decimalValue (pointed whole fraction ++ tail)
      = countValue (whole ++ fraction) * 10 ^ (exponentValue (tail.drop 1) - fraction.length) := by
  have inside : ∀ c ∈ pointed whole fraction, decide (c ≠ 'e') = true := by
    intro c member
    rw [decide_eq_true_eq]
    rintro rfl
    rcases mem_pointed member with digit | point
    · have digit := digits _ digit
      rw [isDigit_e] at digit
      cases digit
    · revert point
      decide
  have outside : ∀ c ∈ tail.head?, decide (c ≠ 'e') = false := fun c first => by simp [set c first]
  obtain ⟨kept,places⟩ := pointed_parts digits
  unfold decimalValue
  dsimp only
  rw [takeWhile_run inside outside,dropWhile_run inside outside,kept,places]

end

theorem exponentValue_text (e : Int) : exponentValue (exponentText e) = e := by
  have size : countValue (if (digitsOf e.natAbs).length < 2 then '0' :: digitsOf e.natAbs else digitsOf e.natAbs) = e.natAbs := by
    split
    · have padded := countValue_append ['0'] (digitsOf e.natAbs)
      rw [List.singleton_append,countValue_digitsOf] at padded
      simpa [countValue,digitValue] using padded
    · exact countValue_digitsOf _
  unfold exponentText
  dsimp only
  split
  · change -(countValue _ : Int) = e
    rw [size]
    omega
  · change (countValue _ : Int) = e
    rw [size]
    omega

theorem decimalValue_text {w : Written} (inDigits : w.InDigits) : decimalValue w.text = w.value := by
  unfold Written.text
  cases exponent : w.exponent with
  | none =>
    rw [decimalValue_pointed inDigits.digits _ (by simp),Written.value,exponent]
    rfl
  | some e =>
    rw [decimalValue_pointed inDigits.digits _ (by simp),Written.value,exponent,List.drop_one,List.tail_cons,
      exponentValue_text]
    rfl

def Writes (text : List Char) (v : ℚ) : Prop :=
  ∃ whole fraction, (∀ c ∈ whole ++ fraction, isDigit c = true) ∧ whole ≠ [] ∧
    text = pointed whole fraction ∧ (countValue (whole ++ fraction) : ℚ) = v * 10 ^ fraction.length

theorem Writes.holds {text : List Char} {v : ℚ} (writes : Writes text v) : Field.numeral.Holds text := by
  obtain ⟨whole,fraction,digits,front,rfl,_⟩ := writes
  refine ⟨whole,fraction,digits,by simp [front],?_⟩
  unfold pointed
  split
  · rename_i entire
    exact .inl ⟨rfl,List.isEmpty_iff.mp entire⟩
  · exact .inr rfl

theorem Writes.decimalValue {text : List Char} {v : ℚ} (writes : Writes text v) : decimalValue text = v := by
  obtain ⟨whole,fraction,digits,_,rfl,value⟩ := writes
  have read := decimalValue_pointed digits [] (by simp)
  rw [List.append_nil] at read
  have exponentless : exponentValue (List.drop 1 []) = 0 := rfl
  rw [read,value,exponentless,zero_sub,zpow_neg,zpow_natCast,mul_assoc,mul_inv_cancel₀ (by positivity),mul_one]

theorem isDigit_padded {run : List Char} (digits : ∀ c ∈ run, isDigit c = true) (before behind : Nat) :
    ∀ c ∈ zeros before ++ run ++ zeros behind, isDigit c = true := by
  intro c inside
  rw [List.append_assoc,List.mem_append,List.mem_append] at inside
  rcases inside with first | digit | last
  · exact isDigit_zeros _ c first
  · exact digits c digit
  · exact isDigit_zeros _ c last

theorem countValue_padded (before behind : Nat) (run : List Char) :
    countValue (zeros before ++ run ++ zeros behind) = 10 ^ behind * countValue run := by
  rw [countValue_append,countValue_append,countValue_zeros,countValue_zeros]
  simp [zeros]

-- The point goes to its place through the digits, and past their ends through zeros.
theorem plain_moved {w : Written} (front : w.whole ≠ []) : ∃ before behind whole fraction, whole ≠ [] ∧
    w.plain = pointed whole fraction ∧ whole ++ fraction = zeros before ++ (w.whole ++ w.fraction) ++ zeros behind ∧
    w.exponent.getD 0 - w.fraction.length = (behind : Int) - fraction.length := by
  unfold Written.plain
  cases exponent : w.exponent with
  | none => exact ⟨0,0,w.whole,w.fraction,front,rfl,by simp [zeros],by simp⟩
  | some power =>
    cases power with
    | ofNat e =>
      dsimp only
      split
      · refine ⟨0,e - w.fraction.length,_,[],?_,rfl,by simp [zeros],?_⟩
        · simp [front]
        · simp only [Option.getD_some,List.length_nil,Int.ofNat_eq_natCast]
          omega
      · refine ⟨0,0,_,_,?_,rfl,by simp [zeros],?_⟩
        · simp [front]
        · simp only [Option.getD_some,List.length_drop,Int.ofNat_eq_natCast]
          omega
    | negSucc e =>
      dsimp only
      split
      · refine ⟨1 + (e + 1 - w.whole.length),0,_,_,by simp,rfl,?_,?_⟩
        · simp [zeros,List.replicate_add]
        · simp only [Option.getD_some,List.length_append,zeros,List.length_replicate]
          omega
      · refine ⟨0,0,_,_,?_,rfl,?_,?_⟩
        · simp only [ne_eq,List.take_eq_nil_iff,front,or_false]
          omega
        · simp [zeros,← List.append_assoc]
        · simp only [Option.getD_some,List.length_append,List.length_drop]
          omega

theorem writes_plain {w : Written} (inDigits : w.InDigits) : Writes w.plain w.value := by
  obtain ⟨before,behind,whole,fraction,front,shape,moved,scale⟩ := plain_moved inDigits.front
  refine ⟨whole,fraction,?_,front,shape,?_⟩
  · rw [moved]
    exact isDigit_padded inDigits.digits before behind
  · rw [moved,countValue_padded,Written.value,scale,zpow_sub₀ (by norm_num),zpow_natCast,zpow_natCast]
    push_cast
    field_simp

theorem Digits.written_padded (d : Digits) : d.written.whole ≠ [] ∧ ∃ before behind,
    d.written.whole ++ d.written.fraction = zeros before ++ digitsOf d.digits ++ zeros behind ∧
    (d.digits ≠ 0 → d.exponent = behind + d.written.exponent.getD 0 - d.written.fraction.length) := by
  have nonempty := digitsOf_ne_nil d.digits
  have long := List.length_pos_of_ne_nil nonempty
  unfold Digits.written
  dsimp only
  split
  · rename_i zero
    have isZero : d.digits = 0 := by simpa using zero
    rw [isZero]
    exact ⟨by simp,0,1,rfl,fun nonzero => absurd rfl nonzero⟩
  · split
    · refine ⟨by simp [nonempty],0,0,?_,fun _ => ?_⟩
      · rw [List.take_append_drop]
        simp [zeros]
      · simp only [Option.getD_some,List.length_drop]
        omega
    · split
      · refine ⟨by simp,1 + (-((digitsOf d.digits).length + d.exponent)).toNat,0,?_,fun _ => ?_⟩
        · simp [zeros,List.replicate_add]
        · simp only [Option.getD_none,List.length_append,List.length_replicate,zeros]
          omega
      · split
        · refine ⟨?_,0,0,by simp [zeros],fun _ => ?_⟩
          · simp only [ne_eq,List.take_eq_nil_iff,nonempty,or_false]
            omega
          · simp only [Option.getD_none,List.length_drop]
            omega
        · refine ⟨by simp [nonempty],0,d.exponent.toNat + 1,?_,fun _ => ?_⟩
          · simp [zeros,List.replicate_add]
          · simp only [Option.getD_none,List.length_singleton]
            omega

theorem Digits.written_inDigits (d : Digits) : d.written.InDigits := by
  obtain ⟨front,before,behind,row,_⟩ := d.written_padded
  refine ⟨front,?_⟩
  rw [row]
  exact isDigit_padded (isDigit_digitsOf d.digits) before behind

theorem write_unsigned {x : Float} {magnitude : Binary} (unsigned : Double.of x = ⟨false,.finite magnitude⟩)
    (spelling : Spelling) : spelling.write x = spelling.magnitude magnitude := by
  unfold Spelling.write
  rw [unsigned]
  rfl

theorem Written.InDigits.first {w : Written} (inDigits : w.InDigits) : ∃ c, w.text.head? = some c ∧ isDigit c = true := by
  obtain ⟨c,rest,whole⟩ := List.exists_cons_of_ne_nil inDigits.front
  refine ⟨c,?_,inDigits.digits c (by simp [whole])⟩
  unfold Written.text pointed
  rw [whole]
  split <;> rfl

-- Infinity, no number, and whatever has a sign begin with something else; so does a zero that has one.
theorem unsigned_of_digit {x : Float} {c : Char} (first : (shown.write x).head? = some c) (digit : isDigit c = true) :
    ∃ magnitude, Double.of x = ⟨false,.finite magnitude⟩ := by
  unfold Spelling.write at first
  rcases double : Double.of x with ⟨negative,kind⟩
  rw [double] at first
  have other (sign : Char) (there : some sign = some c) (notDigit : isDigit sign = false) : False := by
    cases there
    rw [digit] at notDigit
    cases notDigit
  cases kind with
  | nan => exact (other 'n' first (by decide)).elim
  | infinite =>
    cases negative with
    | true => exact (other '-' first (by decide)).elim
    | false => exact (other 'i' first (by decide)).elim
  | finite magnitude =>
    cases negative with
    | true => exact (other '-' first (by decide)).elim
    | false => exact ⟨magnitude,rfl⟩

theorem overtakingLine_reads (difficulty : Difficulty) {chance : Float} (holds : Field.numeral.Holds (chanceText chance)) :
    LineKind.overtaking.read? (overtakingLine difficulty chance) = some [spelled difficulty,chanceText chance] := by
  apply LineKind.read?_eq_some_iff.mpr
  exact ⟨_,List.mem_cons_self,Pattern.fits_write (.cons (Vocabulary.Lawful.word difficulty) (.cons holds .nil))⟩

-- The doubles that are shown in digits alone are the finite ones without a sign. A sheet has each of them for what it is
-- shown as, with no exponent and at most one point, and reads it where it is written.
theorem chanceText_exact (chance : Float) :
    ((∃ magnitude, Double.of chance = ⟨false,.finite magnitude⟩) ↔
      ∃ w : Written, w.InDigits ∧ shown.write chance = w.text) ∧
    ∀ magnitude, Double.of chance = ⟨false,.finite magnitude⟩ →
      (∀ c ∈ chanceText chance, isDigit c = true ∨ c = '.') ∧ (chanceText chance).count '.' ≤ 1 ∧
      Field.numeral.Holds (chanceText chance) ∧
      (∀ difficulty, LineKind.overtaking.read? (overtakingLine difficulty chance) =
        some [spelled difficulty,chanceText chance]) ∧
      decimalValue (chanceText chance) = decimalValue (shown.write chance) := by
  have text (magnitude : Binary) (unsigned : Double.of chance = ⟨false,.finite magnitude⟩) :
      shown.write chance = magnitude.shortest.written.text := write_unsigned unsigned shown
  refine ⟨⟨?_,?_⟩,?_⟩
  · rintro ⟨magnitude,unsigned⟩
    exact ⟨_,magnitude.shortest.written_inDigits,text magnitude unsigned⟩
  · rintro ⟨w,inDigits,same⟩
    obtain ⟨c,first,digit⟩ := inDigits.first
    exact unsigned_of_digit (same ▸ first) digit
  · intro magnitude unsigned
    have inDigits := magnitude.shortest.written_inDigits
    have plain : chanceText chance = magnitude.shortest.written.plain := write_unsigned unsigned Decimal.plain
    have writes := writes_plain inDigits
    rw [← plain] at writes
    have holds := writes.holds
    obtain ⟨admitted,accepted⟩ := Field.holds_iff.mp holds
    simp only [Field.admits,Bool.or_eq_true,decide_eq_true_eq] at admitted
    simp only [Field.accepts,Bool.and_eq_true,decide_eq_true_eq] at accepted
    refine ⟨admitted,accepted.2,holds,fun difficulty => overtakingLine_reads difficulty holds,?_⟩
    rw [writes.decimalValue,text magnitude unsigned,decimalValue_text inDigits]

-- Digits that are set off by an exponent below zero, as no sheet may have them.
theorem smallChance_exact :
    let chance : Float := 0.00001
    (∃ magnitude, Double.of chance = ⟨false,.finite magnitude⟩) ∧ shown.write chance = "1e-05".toList ∧
      chanceText chance = "0.00001".toList ∧
      LineKind.overtaking.read? (overtakingLine .hard chance) = some ["hard".toList,"0.00001".toList] ∧
      decimalValue "0.00001".toList = decimalValue "1e-05".toList := by
  intro chance
  have bits : chance.toBits.toNat = 4532020583610935537 := by decide +kernel
  have unsigned : Double.of chance = ⟨false,.finite ⟨5902958103587057,-69,false⟩⟩ := by
    unfold Double.of
    rw [bits]
    rfl
  have written : shown.write chance = "1e-05".toList := by decide +kernel
  have plain : chanceText chance = "0.00001".toList := by decide +kernel
  obtain ⟨_,_,_,reads,same⟩ := (chanceText_exact chance).2 _ unsigned
  have read := reads .hard
  rw [plain] at read same
  rw [written] at same
  exact ⟨⟨_,unsigned⟩,written,plain,read,same⟩

end PitWall.Decimal
