import TextTemplate.Codec.Utf16
import TextTemplate.Proofs.Codec.SingleByte

/-!
# UTF-16 is read back

Bytes are put together to units, and units to characters. Both steps undo the step of writing and
refuse everything that it does not produce: half a unit, and a unit of a pair without its partner.
The units that bytes are put together to are numbers of 16 bits, and only of those the second step
can tell the text.
-/

namespace TextTemplate

namespace Utf16

/-! ## Bytes and units -/

/-- Bytes are put together to units exactly if the units are numbers of 16 bits that are written as
these bytes. -/
theorem ofBytes?_eq_some_iff {bytes : List UInt8} {written : List Nat} :
    ofBytes? bytes = some written ↔
      (∀ unit ∈ written, unit < 0x10000) ∧ written.flatMap unitBytes = bytes := by
  constructor
  · intro h
    fun_induction ofBytes? bytes generalizing written with
    | case1 => simp_all
    | case2 => exact nomatch h
    | case3 low high rest ih =>
      obtain ⟨units, hunits, rfl⟩ := Option.map_eq_some_iff.mp h
      obtain ⟨hlt, hrest⟩ := ih hunits
      have hlow := low.toNat_lt
      have hhigh := high.toNat_lt
      refine ⟨List.forall_mem_cons.mpr ⟨by omega, hlt⟩, ?_⟩
      rw [List.flatMap_cons, hrest, unitBytes, Nat.add_mul_mod_self_left, Nat.mod_eq_of_lt hlow,
        Nat.add_mul_div_left _ _ (by decide), Nat.div_eq_of_lt hlow, Nat.zero_add,
        UInt8.ofNat_toNat, UInt8.ofNat_toNat]
      rfl
  · rintro ⟨hlt, rfl⟩
    induction written with
    | nil => rfl
    | cons unit rest ih =>
      obtain ⟨hunit, hrest⟩ := List.forall_mem_cons.mp hlt
      have hvalue : (UInt8.ofNat (unit % 0x100)).toNat + 0x100 * (UInt8.ofNat (unit / 0x100)).toNat
          = unit := by
        rw [UInt8.toNat_ofNat', UInt8.toNat_ofNat']
        omega
      rw [List.flatMap_cons, unitBytes, List.cons_append, List.cons_append, List.nil_append,
        ofBytes?, ih hrest, hvalue, Option.map_some]

/-! ## Units and characters -/

theorem ofUnits?_single {unit : Nat} (hhigh : isHigh unit = false) (hlow : isLow unit = false)
    (rest : List Nat) :
    ofUnits? (unit :: rest) = (ofUnits? rest).map (Char.ofNat unit :: ·) := by
  cases rest <;> simp [ofUnits?, hhigh, hlow]

theorem ofUnits?_units_append (c : Char) (rest : List Nat) :
    ofUnits? (units c ++ rest) = (ofUnits? rest).map (c :: ·) := by
  have hc := toNat_bounds c
  by_cases hsmall : c.toNat < 0x10000
  · have hhigh : isHigh c.toNat = false := by simp [isHigh]; omega
    have hlow : isLow c.toNat = false := by simp [isLow]; omega
    rw [units, if_pos hsmall, List.singleton_append, ofUnits?_single hhigh hlow, Char.ofNat_toNat]
  · have hhigh : isHigh (0xD800 + (c.toNat - 0x10000) / 0x400) = true := by
      simp [isHigh]; omega
    have hlow : isLow (0xDC00 + (c.toNat - 0x10000) % 0x400) = true := by
      simp [isLow]; omega
    have hvalue : 0x10000 + (0xD800 + (c.toNat - 0x10000) / 0x400 - 0xD800) * 0x400
        + (0xDC00 + (c.toNat - 0x10000) % 0x400 - 0xDC00) = c.toNat := by omega
    rw [units, if_neg hsmall, List.cons_append, List.singleton_append, ofUnits?, if_pos hhigh,
      if_pos hlow, hvalue]
    dsimp only
    rw [Char.ofNat_toNat]

theorem units_ofNat_single {unit : Nat} (hunit : unit < 0x10000) (hhigh : isHigh unit = false)
    (hlow : isLow unit = false) : units (Char.ofNat unit) = [unit] := by
  simp only [isHigh, isLow, Bool.and_eq_false_iff, decide_eq_false_iff_not] at hhigh hlow
  have hvalid : unit.isValidChar := by
    change unit < 0xD800 ∨ 0xDFFF < unit ∧ unit < 0x110000
    omega
  rw [units, toNat_ofNat_of_isValidChar hvalid, if_pos hunit]

theorem units_ofNat_pair {unit next : Nat} (hhigh : isHigh unit = true) (hlow : isLow next = true) :
    units (Char.ofNat (0x10000 + (unit - 0xD800) * 0x400 + (next - 0xDC00))) = [unit, next] := by
  simp only [isHigh, isLow, Bool.and_eq_true, decide_eq_true_eq] at hhigh hlow
  generalize hn : 0x10000 + (unit - 0xD800) * 0x400 + (next - 0xDC00) = n
  -- A pair lies above the surrogates, and not too far above.
  have hvalid : n.isValidChar := Or.inr (by omega)
  have hfirst : 0xD800 + (n - 0x10000) / 0x400 = unit := by omega
  have hsecond : 0xDC00 + (n - 0x10000) % 0x400 = next := by omega
  rw [units, toNat_ofNat_of_isValidChar hvalid, if_neg (by omega), hfirst, hsecond]

/-- Units of 16 bits are read as a text exactly if they are those of its characters. -/
theorem ofUnits?_eq_some_iff {written : List Nat} (hlt : ∀ unit ∈ written, unit < 0x10000)
    {text : Text} : ofUnits? written = some text ↔ text.flatMap units = written := by
  constructor
  · intro h
    fun_induction ofUnits? written generalizing text with
    | case1 => simp_all
    | case2 => exact nomatch h
    | case3 unit hsingle =>
      simp only [Bool.or_eq_true, not_or, Bool.not_eq_true] at hsingle
      obtain rfl := Option.some.inj h
      rw [List.flatMap_cons, units_ofNat_single (hlt unit List.mem_cons_self) hsingle.1 hsingle.2]
      rfl
    | case4 unit next rest hhigh hlow codePoint ih =>
      obtain ⟨text, htext, rfl⟩ := Option.map_eq_some_iff.mp h
      rw [List.flatMap_cons, units_ofNat_pair hhigh hlow, ih (by simp_all) htext]
      rfl
    -- The first of a pair without the second is refused, and so is a second one alone.
    | case5 => exact nomatch h
    | case6 => exact nomatch h
    | case7 unit next rest hhigh hlow ih =>
      obtain ⟨text, htext, rfl⟩ := Option.map_eq_some_iff.mp h
      rw [List.flatMap_cons, units_ofNat_single (hlt unit List.mem_cons_self) (by simpa using hhigh)
        (by simpa using hlow), ih (by simp_all) htext]
      rfl
  · rintro rfl
    clear hlt
    induction text with
    | nil => rfl
    | cons c text ih => rw [List.flatMap_cons, ofUnits?_units_append, ih, Option.map_some]

theorem lt_of_mem_units {c : Char} {unit : Nat} (h : unit ∈ units c) : unit < 0x10000 := by
  have hc := toNat_bounds c
  rw [units] at h
  split at h <;> simp at h <;> omega

/-- **Bytes are read as a text exactly if they are its encoding.** -/
theorem decode?_eq_some_iff {bytes : List UInt8} {text : Text} :
    decode? bytes = some text ↔ encode text = bytes := by
  have hencode : encode text = (text.flatMap units).flatMap unitBytes := List.flatMap_assoc.symm
  simp only [decode?, Option.bind_eq_some_iff, ofBytes?_eq_some_iff, hencode]
  constructor
  · rintro ⟨written, ⟨hlt, rfl⟩, htext⟩
    rw [(ofUnits?_eq_some_iff hlt).mp htext]
  · intro hbytes
    have hlt : ∀ unit ∈ text.flatMap units, unit < 0x10000 := by
      intro unit hunit
      obtain ⟨c, -, hc⟩ := List.mem_flatMap.mp hunit
      exact lt_of_mem_units hc
    exact ⟨_, ⟨hlt, hbytes⟩, (ofUnits?_eq_some_iff hlt).mpr rfl⟩

end Utf16

end TextTemplate
