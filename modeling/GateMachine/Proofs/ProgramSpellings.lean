import GateMachine.Proofs.ByteSpellings

/-!
How instructions may be spelled in bytes. Only the numbers leave a choice: opcodes,
targets and lengths may take more bytes than they need, while words and texts have one
form. What is decoded is what is spelled (`reads_list`). Instructions can be spelled
exactly when their lengths are 64-bit numbers (`Fits`), and then their encoding is a
spelling (`spellsList_encode_iff`), the shortest there is (`length_encodeList_le`).
-/

namespace GateMachine

namespace Opcode

theorem ofTag?_eq_some_iff {number : Nat} {opcode : Opcode} :
    ofTag? number = some opcode ↔ opcode.tag = number := by
  constructor
  · intro found
    obtain ⟨below, rfl⟩ := List.getElem?_eq_some_iff.mp found
    have distinct : all.Nodup := by decide
    exact distinct.idxOf_getElem number below
  · rintro rfl
    exact ofTag?_tag opcode

theorem tag_lt (opcode : Opcode) : opcode.tag < UInt32.size := by
  cases opcode <;> decide

end Opcode

namespace Wire

variable {τ : Type}

section Operands

theorem reads_word : Reads Decoder.word fun word code => code = encodeWord word := by
  apply (reads_byte.mapOption (fun byte => Word.ofNat? byte.toNat) .invalid).congr
  intro word code
  constructor
  · rintro ⟨byte, found, rfl⟩
    rw [encodeWord, Word.value_of_ofNat? found, Nat.toUInt8, UInt8.ofNat_toNat]
  · rintro rfl
    have same : word.value.toUInt8.toNat = word.value :=
      UInt8.toNat_ofNat_of_lt' (Nat.lt_trans word.value_lt (by decide))
    exact ⟨word.value.toUInt8, by rw [same, Word.ofNat?_value], rfl⟩

/-- The bytes of a text are its UTF-8 form; only their number has several spellings. -/
def SpellsText (text : String) (code : List UInt8) : Prop :=
  ∃ size, Numeral .bits64 text.utf8ByteSize size ∧ code = size ++ text.toUTF8.data.toList

theorem fromUTF8?_eq_some_iff {content : List UInt8} {text : String} :
    String.fromUTF8? ⟨content.toArray⟩ = some text ↔ content = text.toUTF8.data.toList := by
  unfold String.fromUTF8?
  constructor
  · intro decoded
    split at decoded
    · cases decoded
      rfl
    · contradiction
  · rintro rfl
    exact dif_pos text.isValidUTF8

theorem reads_text : Reads Decoder.text SpellsText := by
  apply ((reads_varint .bits64).andThen fun size =>
    (reads_bytes size).mapOption _ .badText).congr
  intro text code
  constructor
  · rintro ⟨size, front, _, rfl, spelled, content, decoded, rfl, rfl⟩
    cases fromUTF8?_eq_some_iff.mp decoded
    exact ⟨front, spelled, rfl⟩
  · rintro ⟨size, spelled, rfl⟩
    exact ⟨_, size, _, rfl, spelled, _, fromUTF8?_eq_some_iff.mpr rfl, rfl, rfl⟩

def SpellsLine (line : Line) (code : List UInt8) : Prop :=
  Numeral .bits64 line.number.toNat code

def SpellsAddress (address : Address) (code : List UInt8) : Prop :=
  Numeral .bits64 address.index.toNat code

/-- A way to write targets: each has a code that is read as it, and no shorter one. -/
structure TargetCode (decoder : Decoder τ) (encode : τ → List UInt8)
    (spells : τ → List UInt8 → Prop) : Prop where
  reads : Reads decoder spells
  encoded : ∀ target, spells target (encode target)
  shortest : ∀ target code, spells target code → (encode target).length ≤ code.length

theorem lineCode : TargetCode Decoder.line encodeLine SpellsLine where
  reads := by
    apply (reads_number.map Line.mk).congr
    intro line code
    cases line
    simp [SpellsLine]
  encoded := fun line => numeral_bits64 line.number.toNat_lt
  shortest := fun _ _ spelled => spelled.groups.length_varint_le

theorem addressCode : TargetCode Decoder.address encodeAddress SpellsAddress where
  reads := by
    apply (reads_number.map Address.mk).congr
    intro address code
    cases address
    simp [SpellsAddress]
  encoded := fun address => numeral_bits64 address.index.toNat_lt
  shortest := fun _ _ spelled => spelled.groups.length_varint_le

end Operands

section Instructions

variable {target : Decoder τ} {encodeTarget : τ → List UInt8} {spells : τ → List UInt8 → Prop}
  {instruction : Instruction τ} {code : List UInt8}

def SpellsOperand (spells : τ → List UInt8 → Prop) :
    Instruction τ → List UInt8 → Prop
  | .push word, code | .replace word, code | .mod word, code | .eq word, code =>
      code = encodeWord word
  | .jump target, code | .ifNZero target, code => spells target code
  | .print text, code => SpellsText text code
  | .pop, code | .dup, code | .peek, code | .inc, code | .stop, code | .printHead, code =>
      code = []

def SpellsInstruction (spells : τ → List UInt8 → Prop) (instruction : Instruction τ)
    (code : List UInt8) : Prop :=
  ∃ tag operand, code = tag ++ operand ∧ Numeral .bits32 instruction.opcode.tag tag ∧
    SpellsOperand spells instruction operand

theorem reads_operand (reads : Reads target spells) (opcode : Opcode) :
    Reads (Decoder.operand target opcode) fun instruction code =>
      instruction.opcode = opcode ∧ SpellsOperand spells instruction code := by
  cases opcode with
  | push | replace | mod | eq =>
      apply (reads_word.map _).congr
      intro instruction code
      cases instruction <;> simp [SpellsOperand, Instruction.opcode]
  | jump | ifNZero =>
      apply (reads.map _).congr
      intro instruction code
      cases instruction <;> simp [SpellsOperand, Instruction.opcode]
  | print =>
      apply (reads_text.map _).congr
      intro instruction code
      cases instruction <;> simp [SpellsOperand, Instruction.opcode]
  | pop | dup | peek | inc | stop | printHead =>
      apply (reads_const _).congr
      intro instruction code
      cases instruction <;> simp [SpellsOperand, Instruction.opcode]

theorem reads_opcode :
    Reads Decoder.opcode fun opcode code => Numeral .bits32 opcode.tag code := by
  apply ((reads_varint .bits32).mapOption Opcode.ofTag? .invalid).congr
  intro opcode code
  simp only [Opcode.ofTag?_eq_some_iff, exists_eq_left']

theorem reads_instruction (reads : Reads target spells) :
    Reads (Decoder.instruction target) (SpellsInstruction spells) := by
  apply (reads_opcode.andThen (reads_operand reads)).congr
  intro instruction code
  constructor
  · rintro ⟨_, tag, operand, rfl, spelled, rfl, spelledOperand⟩
    exact ⟨tag, operand, rfl, spelled, spelledOperand⟩
  · rintro ⟨tag, operand, rfl, spelled, spelledOperand⟩
    exact ⟨_, tag, operand, rfl, spelled, rfl, spelledOperand⟩

theorem spellsOperand_encode (lawful : TargetCode target encodeTarget spells)
    (fits : ∀ text, .print text = instruction → text.utf8ByteSize < UInt64.size) :
    SpellsOperand spells instruction (encodeOperand encodeTarget instruction) := by
  cases instruction with
  | jump target | ifNZero target => exact lawful.encoded target
  | print text => exact ⟨_, numeral_bits64 (fits text rfl), rfl⟩
  | _ => rfl

theorem spellsInstruction_encode (lawful : TargetCode target encodeTarget spells)
    (fits : ∀ text, .print text = instruction → text.utf8ByteSize < UInt64.size) :
    SpellsInstruction spells instruction (encodeInstruction encodeTarget instruction) :=
  ⟨_, _, rfl, numeral_bits32 instruction.opcode.tag_lt, spellsOperand_encode lawful fits⟩

theorem length_encodeOperand_le (lawful : TargetCode target encodeTarget spells)
    (spelled : SpellsOperand spells instruction code) :
    (encodeOperand encodeTarget instruction).length ≤ code.length := by
  cases instruction with
  | jump target | ifNZero target => exact lawful.shortest target code spelled
  | print text =>
      obtain ⟨size, counted, rfl⟩ := spelled
      simp only [encodeOperand, encodeText, List.length_append]
      exact Nat.add_le_add_right counted.groups.length_varint_le _
  | _ =>
      cases spelled
      exact Nat.le_refl _

theorem length_encodeInstruction_le (lawful : TargetCode target encodeTarget spells)
    (spelled : SpellsInstruction spells instruction code) :
    (encodeInstruction encodeTarget instruction).length ≤ code.length := by
  obtain ⟨tag, operand, rfl, numbered, spelledOperand⟩ := spelled
  simp only [encodeInstruction, List.length_append]
  exact Nat.add_le_add numbered.groups.length_varint_le
    (length_encodeOperand_le lawful spelledOperand)

theorem text_lt_of_spells {text : String} (spelled : SpellsInstruction spells (.print text) code) :
    text.utf8ByteSize < UInt64.size := by
  obtain ⟨_, _, _, _, size, counted, _⟩ := spelled
  exact bound_bits64 ▸ counted.small

end Instructions

section Lists

variable {target : Decoder τ} {encodeTarget : τ → List UInt8} {spells : τ → List UInt8 → Prop}
  {instructions : List (Instruction τ)} {code : List UInt8}

/-- Every length that is written is a 64-bit number, as the length of anything in memory is. -/
structure Fits (instructions : List (Instruction τ)) : Prop where
  length_lt : instructions.length < UInt64.size
  text_lt : ∀ text, .print text ∈ instructions → text.utf8ByteSize < UInt64.size

def SpellsList (spells : τ → List UInt8 → Prop) (instructions : List (Instruction τ))
    (code : List UInt8) : Prop :=
  ∃ size items, code = size ++ items ∧ Numeral .bits64 instructions.length size ∧
    Sequence (SpellsInstruction spells) instructions items

theorem reads_list (reads : Reads target spells) :
    Reads (Decoder.list target) (SpellsList spells) := by
  apply ((reads_varint .bits64).andThen fun count => (reads_instruction reads).times count).congr
  intro instructions code
  constructor
  · rintro ⟨_, size, items, rfl, counted, rfl, spelled⟩
    exact ⟨size, items, rfl, counted, spelled⟩
  · rintro ⟨size, items, rfl, counted, spelled⟩
    exact ⟨_, size, items, rfl, counted, rfl, spelled⟩

theorem sequence_flatMap {α : Type} {spells : α → List UInt8 → Prop} {encode : α → List UInt8}
    {values : List α} (encoded : ∀ value ∈ values, spells value (encode value)) :
    Sequence spells values (values.flatMap encode) := by
  induction values with
  | nil => exact .nil
  | cons first rest ih =>
      obtain ⟨here, others⟩ := List.forall_mem_cons.mp encoded
      exact .cons here (ih others)

theorem Sequence.length_flatMap_le {α : Type} {spells : α → List UInt8 → Prop}
    {encode : α → List UInt8} {values : List α} (sequence : Sequence spells values code)
    (shortest : ∀ value code, spells value code → (encode value).length ≤ code.length) :
    (values.flatMap encode).length ≤ code.length := by
  induction sequence with
  | nil => exact Nat.le_refl 0
  | cons first _ ih =>
      simp only [List.flatMap_cons, List.length_append]
      exact Nat.add_le_add (shortest _ _ first) ih

theorem Sequence.spelled_of_mem {α : Type} {spells : α → List UInt8 → Prop} {values : List α}
    (sequence : Sequence spells values code) :
    ∀ value ∈ values, ∃ part, spells value part := by
  induction sequence with
  | nil => simp
  | cons first _ ih => exact List.forall_mem_cons.mpr ⟨⟨_, first⟩, ih⟩

theorem fits_of_spellsList (spelled : SpellsList spells instructions code) :
    Fits instructions := by
  obtain ⟨size, items, rfl, counted, sequence⟩ := spelled
  refine ⟨bound_bits64 ▸ counted.small, ?_⟩
  intro text member
  obtain ⟨part, spelledPart⟩ := sequence.spelled_of_mem (.print text) member
  exact text_lt_of_spells spelledPart

theorem spellsList_encode_iff (lawful : TargetCode target encodeTarget spells) :
    SpellsList spells instructions (encodeList encodeTarget instructions) ↔
      Fits instructions := by
  refine ⟨fits_of_spellsList, ?_⟩
  intro fits
  refine ⟨_, _, rfl, numeral_bits64 fits.length_lt, sequence_flatMap ?_⟩
  intro instruction member
  apply spellsInstruction_encode lawful
  rintro text rfl
  exact fits.text_lt text member

theorem length_encodeList_le (lawful : TargetCode target encodeTarget spells)
    (spelled : SpellsList spells instructions code) :
    (encodeList encodeTarget instructions).length ≤ code.length := by
  obtain ⟨size, items, rfl, counted, sequence⟩ := spelled
  simp only [encodeList, List.length_append]
  apply Nat.add_le_add counted.groups.length_varint_le
  apply sequence.length_flatMap_le
  intro instruction part spelledPart
  exact length_encodeInstruction_le lawful spelledPart

end Lists

end Wire

end GateMachine
