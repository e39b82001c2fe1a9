import GateMachine.Wire.Code

/-!
What decoders read. A value may be spelled in several ways, since a number may take
more bytes than it needs. A decoder `Reads` a notion of spelling if it takes exactly
the spellings off the front of the bytes, whatever follows; the ways of putting
decoders together put the spellings together as well. Such a spelling marks its own
end (`Reads.selfDelimiting_iff`).

A number is spelled by groups of seven bits, within the limits of its width
(`reads_varint`), and of its spellings `varint` gives the shortest
(`Groups.length_varint_le`).
-/

namespace GateMachine

namespace Wire

section Readings

variable {α β : Type} {decoder : Decoder α} {spells : α → List UInt8 → Prop}

/-- The decoder takes the spellings of values off the front of its input, and nothing else. -/
def Reads (decoder : Decoder α) (spells : α → List UInt8 → Prop) : Prop :=
  ∀ input value rest, decoder input = .ok (value, rest) ↔
    ∃ code, input = code ++ rest ∧ spells value code

/-- The bytes give the value, and leave alone what follows them; less than all of
them give nothing. -/
structure SelfDelimiting (decoder : Decoder α) (value : α) (code : List UInt8) : Prop where
  reads : ∀ rest, decoder (code ++ rest) = .ok (value, rest)
  whole : ∀ part, part <+: code → part ≠ code → ∃ error, decoder part = .error error

theorem Reads.spelled (reads : Reads decoder spells) {value : α} {code : List UInt8}
    (spelled : spells value code) (rest : List UInt8) :
    decoder (code ++ rest) = .ok (value, rest) := by
  apply (reads _ _ _).mpr
  exact ⟨code, rfl, spelled⟩

theorem Reads.refuses_part (reads : Reads decoder spells) {value : α} {part missing : List UInt8}
    (spelled : spells value (part ++ missing)) (less : missing ≠ []) :
    ∃ error, decoder part = .error error := by
  cases given : decoder part with
  | error error => exact ⟨error, rfl⟩
  | ok result =>
      -- What is read of a part is read in front of the missing bytes too, and leaves them.
      obtain ⟨taken, rfl, spelledToo⟩ := (reads _ _ _).mp given
      have whole := reads.spelled spelled []
      rw [List.append_nil, List.append_assoc, reads.spelled spelledToo] at whole
      have nothing : result.2 ++ missing = [] := congrArg Prod.snd (Except.ok.inj whole)
      exact absurd (List.append_eq_nil_iff.mp nothing).2 less

theorem Reads.selfDelimiting_iff (reads : Reads decoder spells) {value : α} {code : List UInt8} :
    SelfDelimiting decoder value code ↔ spells value code := by
  constructor
  · intro delimited
    obtain ⟨taken, whole, spelled⟩ := (reads _ _ _).mp (delimited.reads [])
    rwa [List.append_cancel_right whole]
  · intro spelled
    refine ⟨reads.spelled spelled, ?_⟩
    rintro part ⟨missing, rfl⟩ different
    apply reads.refuses_part spelled
    rintro rfl
    exact different (List.append_nil part).symm

theorem Reads.congr {other : α → List UInt8 → Prop} (reads : Reads decoder spells)
    (same : ∀ value code, spells value code ↔ other value code) : Reads decoder other := by
  intro input value rest
  rw [reads input value rest]
  simp only [same]

theorem Reads.mapOption (reads : Reads decoder spells) (f : α → Option β) (reason : DecodeError) :
    Reads (decoder.mapOption f reason) fun value code =>
      ∃ origin, f origin = some value ∧ spells origin code := by
  intro input value rest
  have made : decoder.mapOption f reason input = .ok (value, rest) ↔
      ∃ origin, decoder input = .ok (origin, rest) ∧ f origin = some value := by
    unfold Decoder.mapOption
    cases decoder input <;> grind
  rw [made]
  constructor
  · rintro ⟨origin, given, image⟩
    obtain ⟨code, whole, spelled⟩ := (reads _ _ _).mp given
    exact ⟨code, whole, origin, image, spelled⟩
  · rintro ⟨code, whole, origin, image, spelled⟩
    exact ⟨origin, (reads _ _ _).mpr ⟨code, whole, spelled⟩, image⟩

theorem map_eq_mapOption (f : α → β) (decoder : Decoder α) (reason : DecodeError) :
    decoder.map f = decoder.mapOption (fun origin => some (f origin)) reason := by
  funext input
  unfold Decoder.map Decoder.mapOption
  cases decoder input <;> rfl

theorem Reads.map (reads : Reads decoder spells) (f : α → β) :
    Reads (decoder.map f) fun value code => ∃ origin, f origin = value ∧ spells origin code := by
  rw [map_eq_mapOption f decoder .invalid]
  apply (reads.mapOption (fun origin => some (f origin)) .invalid).congr
  intro value code
  simp only [Option.some.injEq]

theorem Reads.andThen {next : α → Decoder β} {spellsNext : α → β → List UInt8 → Prop}
    (reads : Reads decoder spells) (readsNext : ∀ first, Reads (next first) (spellsNext first)) :
    Reads (decoder.andThen next) fun value code => ∃ first front back, code = front ++ back ∧
      spells first front ∧ spellsNext first value back := by
  intro input value rest
  have made : decoder.andThen next input = .ok (value, rest) ↔
      ∃ first middle, decoder input = .ok (first, middle) ∧
        next first middle = .ok (value, rest) := by
    unfold Decoder.andThen
    cases decoder input <;> grind
  rw [made]
  constructor
  · rintro ⟨first, middle, given, thenGiven⟩
    obtain ⟨front, rfl, spelled⟩ := (reads _ _ _).mp given
    obtain ⟨back, rfl, spelledNext⟩ := (readsNext first _ _ _).mp thenGiven
    exact ⟨front ++ back, by rw [List.append_assoc], first, front, back, rfl, spelled, spelledNext⟩
  · rintro ⟨_, rfl, first, front, back, rfl, spelled, spelledNext⟩
    rw [List.append_assoc]
    exact ⟨first, back ++ rest, reads.spelled spelled _, (readsNext first).spelled spelledNext _⟩

theorem reads_const (value : α) :
    Reads (Decoder.const value) fun given code => given = value ∧ code = [] := by
  intro input given rest
  unfold Decoder.const
  grind

theorem reads_byte : Reads Decoder.byte fun byte code => code = [byte] := by
  intro input value rest
  cases input with
  | nil => simp [Decoder.byte]
  | cons first tail => simp [Decoder.byte]

theorem reads_bytes (count : Nat) :
    Reads (Decoder.bytes count) fun content code => code = content ∧ content.length = count := by
  intro input value rest
  unfold Decoder.bytes
  constructor
  · intro given
    split at given
    · contradiction
    · next enough =>
        cases given
        refine ⟨_, (List.take_append_drop count input).symm, rfl, ?_⟩
        exact List.length_take_of_le (Nat.le_of_not_lt enough)
  · rintro ⟨_, rfl, rfl, rfl⟩
    simp

/-- One spelling after the other. -/
inductive Sequence (spells : α → List UInt8 → Prop) : List α → List UInt8 → Prop where
  | nil : Sequence spells [] []
  | cons {value : α} {values : List α} {front back : List UInt8} (first : spells value front)
      (others : Sequence spells values back) :
      Sequence spells (value :: values) (front ++ back)

theorem Reads.times (reads : Reads decoder spells) (count : Nat) :
    Reads (decoder.times count) fun values code =>
      values.length = count ∧ Sequence spells values code := by
  induction count with
  | zero =>
      apply (reads_const ([] : List α)).congr
      intro values code
      constructor
      · rintro ⟨rfl, rfl⟩
        exact ⟨rfl, .nil⟩
      · rintro ⟨empty, spelled⟩
        cases spelled with
        | nil => exact ⟨rfl, rfl⟩
        | cons _ _ => contradiction
  | succ count ih =>
      apply (reads.andThen fun first => ih.map (first :: ·)).congr
      intro values code
      constructor
      · rintro ⟨first, front, back, rfl, spelled, others, rfl, length, spelledOthers⟩
        exact ⟨by rw [List.length_cons, length], .cons spelled spelledOthers⟩
      · rintro ⟨length, spelled⟩
        cases spelled with
        | nil => contradiction
        | @cons value values front back first others =>
            exact ⟨value, front, back, rfl, first, values, rfl, Nat.succ.inj length, others⟩

end Readings

section Numbers

/-- Groups of seven bits, the low ones first; in all but the last the high bit is set. -/
inductive Groups : Nat → List UInt8 → Prop where
  | last {byte : UInt8} (low : byte.toNat < 128) : Groups byte.toNat [byte]
  | more {byte : UInt8} {number : Nat} {code : List UInt8} (high : 128 ≤ byte.toNat)
      (rest : Groups number code) : Groups (byte.toNat % 128 + 128 * number) (byte :: code)

/-- All numbers that fit in `count` groups are below this one, if the last may be `last`. -/
def boundWithin (last : Nat) : Nat → Nat
  | 0 => 0
  | 1 => last + 1
  | count + 2 => 128 * boundWithin last (count + 1)

def Width.bound (width : Width) : Nat := boundWithin width.last width.bytes

theorem bound_bits64 : Width.bits64.bound = UInt64.size := by decide

theorem bound_bits32 : Width.bits32.bound = UInt32.size := by decide

theorem bound_succ (last count : Nat) :
    Width.bound ⟨count + 2, last⟩ = 128 * Width.bound ⟨count + 1, last⟩ := rfl

theorem boundWithin_pos (last count : Nat) : 0 < boundWithin last (count + 1) := by
  induction count with
  | zero => exact Nat.succ_pos last
  | succ count ih => exact Nat.mul_pos (by decide) ih

/-- The number has this width, and its groups are not more than the width allows. -/
structure Numeral (width : Width) (number : Nat) (code : List UInt8) : Prop where
  groups : Groups number code
  length_le : code.length ≤ width.bytes
  small : number < width.bound

variable {width : Width} {number : Nat} {code : List UInt8}

theorem not_groups_nil : ¬ Groups number [] := by
  intro groups
  cases groups

theorem groups_cons_low {byte : UInt8} (low : byte.toNat < 128) :
    Groups number (byte :: code) ↔ number = byte.toNat ∧ code = [] := by
  constructor
  · intro groups
    cases groups with
    | last _ => exact ⟨rfl, rfl⟩
    | more high _ => omega
  · rintro ⟨rfl, rfl⟩
    exact .last low

theorem groups_cons_high {byte : UInt8} (high : 128 ≤ byte.toNat) :
    Groups number (byte :: code) ↔
      ∃ above, byte.toNat % 128 + 128 * above = number ∧ Groups above code := by
  constructor
  · intro groups
    cases groups with
    | last low => omega
    | more _ rest => exact ⟨_, rfl, rest⟩
  · rintro ⟨above, rfl, rest⟩
    exact .more high rest

variable {last count : Nat}

theorem numeral_cons_low {byte : UInt8} (low : byte.toNat < 128) :
    Numeral ⟨count + 1, last⟩ number (byte :: code) ↔
      (number = byte.toNat ∧ code = []) ∧ ¬ (count = 0 ∧ last < byte.toNat) := by
  have fits : byte.toNat < boundWithin last (count + 1) ↔ ¬ (count = 0 ∧ last < byte.toNat) := by
    cases count with
    | zero =>
        rw [boundWithin]
        omega
    | succ count =>
        have positive := boundWithin_pos last count
        rw [boundWithin]
        omega
  constructor
  · rintro ⟨groups, _, small⟩
    obtain ⟨rfl, rfl⟩ := (groups_cons_low low).mp groups
    exact ⟨⟨rfl, rfl⟩, fits.mp small⟩
  · rintro ⟨⟨rfl, rfl⟩, allowed⟩
    exact ⟨.last low, Nat.succ_le_succ (Nat.zero_le count), fits.mpr allowed⟩

theorem not_numeral_zero : ¬ Numeral ⟨0, last⟩ number code := by
  rintro ⟨groups, short, _⟩
  cases List.eq_nil_of_length_eq_zero (Nat.le_zero.mp short)
  exact not_groups_nil groups

theorem numeral_cons_high {byte : UInt8} (high : 128 ≤ byte.toNat) :
    Numeral ⟨count + 1, last⟩ number (byte :: code) ↔
      ∃ above, byte.toNat % 128 + 128 * above = number ∧ Numeral ⟨count, last⟩ above code := by
  have low : byte.toNat % 128 < 128 := Nat.mod_lt _ (by decide)
  cases count with
  | zero =>
      -- There is no room for a second byte.
      constructor
      · rintro ⟨groups, short, _⟩
        obtain ⟨above, _, rest⟩ := (groups_cons_high high).mp groups
        cases List.eq_nil_of_length_eq_zero (Nat.le_zero.mp (Nat.le_of_succ_le_succ short))
        exact absurd rest not_groups_nil
      · rintro ⟨above, _, rest⟩
        exact absurd rest not_numeral_zero
  | succ count =>
      constructor
      · rintro ⟨groups, short, small⟩
        obtain ⟨above, rfl, rest⟩ := (groups_cons_high high).mp groups
        rw [bound_succ] at small
        exact ⟨above, rfl, rest, Nat.le_of_succ_le_succ short, by omega⟩
      · rintro ⟨above, rfl, rest, short, small⟩
        refine ⟨.more high rest, Nat.succ_le_succ short, ?_⟩
        rw [bound_succ]
        omega

theorem numeral_front {byte : UInt8} {tail rest : List UInt8} :
    (∃ code, byte :: tail = code ++ rest ∧ Numeral width number code) ↔
      ∃ code, tail = code ++ rest ∧ Numeral width number (byte :: code) := by
  constructor
  · rintro ⟨code, whole, spelled⟩
    cases code with
    | nil => exact absurd spelled.groups not_groups_nil
    | cons first code =>
        cases whole
        exact ⟨code, rfl, spelled⟩
  · rintro ⟨code, rfl, spelled⟩
    exact ⟨byte :: code, rfl, spelled⟩

theorem varintWithin_high {byte : UInt8} (high : 128 ≤ byte.toNat) (tail : List UInt8) :
    varintWithin last (count + 1) (byte :: tail) =
      Decoder.map (fun above => byte.toNat % 128 + 128 * above) (varintWithin last count) tail := by
  have lowPart : byte.toNat - 128 = byte.toNat % 128 := by
    have small := byte.toNat_lt
    omega
  rw [varintWithin, if_neg (Nat.not_lt_of_le high), lowPart]
  unfold Decoder.map
  cases varintWithin last count tail <;> rfl

theorem reads_varintWithin (last count : Nat) :
    Reads (varintWithin last count) (Numeral ⟨count, last⟩) := by
  induction count with
  | zero =>
      intro input value rest
      simp only [varintWithin, not_numeral_zero, and_false, exists_false, reduceCtorEq]
  | succ count ih =>
      intro input value rest
      cases input with
      | nil =>
          constructor
          · intro given
            contradiction
          · rintro ⟨code, whole, spelled⟩
            rw [(List.append_eq_nil_iff.mp whole.symm).1] at spelled
            exact absurd spelled.groups not_groups_nil
      | cons byte tail =>
          rw [numeral_front]
          by_cases low : byte.toNat < 128
          · simp only [varintWithin, if_pos low, numeral_cons_low low]
            grind
          · have high := Nat.le_of_not_lt low
            have readsAbove := ih.map (fun above => byte.toNat % 128 + 128 * above)
            rw [varintWithin_high high, readsAbove]
            simp only [numeral_cons_high high]

theorem reads_varint (width : Width) : Reads (Decoder.varint width) (Numeral width) :=
  reads_varintWithin width.last width.bytes

theorem reads_number :
    Reads Decoder.number fun number code => Numeral .bits64 number.toNat code := by
  apply ((reads_varint .bits64).map Nat.toUInt64).congr
  intro number code
  constructor
  · rintro ⟨origin, rfl, spelled⟩
    have small := spelled.small
    rw [bound_bits64] at small
    rw [UInt64.toNat_ofNat_of_lt' small]
    exact spelled
  · intro spelled
    exact ⟨number.toNat, UInt64.ofNat_toNat, spelled⟩

theorem groups_varint (number : Nat) : Groups number (varint number) := by
  fun_induction varint number with
  | case1 number small =>
      have same : number.toUInt8.toNat = number :=
        UInt8.toNat_ofNat_of_lt' (Nat.lt_trans small (by decide))
      have spelled := Groups.last (by rwa [same] : number.toUInt8.toNat < 128)
      rwa [same] at spelled
  | case2 number large ih =>
      have same : (number % 128 + 128).toUInt8.toNat = number % 128 + 128 :=
        UInt8.toNat_ofNat_of_lt' (Nat.add_lt_add_right (Nat.mod_lt number (by decide)) 128)
      have spelled := Groups.more (by omega : 128 ≤ (number % 128 + 128).toUInt8.toNat) ih
      have whole : (number % 128 + 128) % 128 + 128 * (number / 128) = number := by omega
      rwa [same, whole] at spelled

/-- No spelling of a number is shorter than this one. -/
theorem Groups.length_varint_le (groups : Groups number code) :
    (varint number).length ≤ code.length := by
  induction groups with
  | last low =>
      rw [varint, if_pos low]
      exact Nat.le_refl 1
  | @more byte above code high rest ih =>
      have low : byte.toNat % 128 < 128 := Nat.mod_lt _ (by decide)
      have quotient : (byte.toNat % 128 + 128 * above) / 128 = above := by omega
      rw [varint]
      split
      · exact Nat.succ_le_succ (Nat.zero_le _)
      · rw [quotient]
        exact Nat.succ_le_succ ih

theorem length_varint_le {last count : Nat} (room : last < 128)
    (small : number < boundWithin last count) : (varint number).length ≤ count := by
  fun_induction boundWithin last count generalizing number with
  | case1 => exact absurd small (Nat.not_lt_zero number)
  | case2 =>
      rw [varint, if_pos (by omega)]
      exact Nat.le_refl 1
  | case3 count ih =>
      rw [varint]
      split
      · exact Nat.succ_le_succ (Nat.zero_le _)
      · apply Nat.succ_le_succ
        apply ih
        omega

theorem numeral_varint (room : width.last < 128) (small : number < width.bound) :
    Numeral width number (varint number) where
  groups := groups_varint number
  length_le := length_varint_le room small
  small := small

theorem numeral_bits64 (small : number < UInt64.size) :
    Numeral .bits64 number (varint number) :=
  numeral_varint (by decide) (by rwa [bound_bits64])

theorem numeral_bits32 (small : number < UInt32.size) :
    Numeral .bits32 number (varint number) :=
  numeral_varint (by decide) (by rwa [bound_bits32])

end Numbers

end Wire

end GateMachine
