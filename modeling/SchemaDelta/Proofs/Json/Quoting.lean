import SchemaDelta.Json.Reader
import SchemaDelta.Json.Writer

/-!
# Quoted texts are read back

Every letter of a text is escaped by letters that are read as it, so that a text in quotes is read
up to its closing quote as the text itself.
-/

namespace SchemaDelta.Json

/-- The start of a text was read as a value, and this is the rest. -/
def Reads
    {α : Type}
    {text : List Char}
    (outcome : Except Fault (α × Rest text))
    (value : α)
    (rest : List Char) : Prop :=
  ∃ shorter, outcome = .ok (value, ⟨rest, shorter⟩)

/-! ## Code units -/

private theorem hexValue?_digitChar
    {digit : Nat}
    (within : digit < 16) :
    hexValue? (Nat.digitChar digit) = some digit := by
  have all : ∀ digit : Fin 16, hexValue? (Nat.digitChar digit) = some digit.val := by decide
  exact all ⟨digit, within⟩

/-- The four digits by which a code unit is escaped. -/
private theorem hexDigits_eq
    {unit : Nat}
    (within : unit < 0x10000) :
    hexDigits unit = [Nat.digitChar (unit / 0x1000), Nat.digitChar (unit / 0x100 % 16),
      Nat.digitChar (unit / 16 % 16), Nat.digitChar (unit % 16)] := by
  have more : ∀ number, 16 ≤ number → Nat.toDigits 16 number =
      Nat.toDigits 16 (number / 16) ++ [Nat.digitChar (number % 16)] :=
    fun number reached => Nat.toDigits_of_base_le (by decide) reached
  have single : ∀ number, number < 16 → Nat.toDigits 16 number = [Nat.digitChar number] :=
    fun number below => Nat.toDigits_of_lt_base below
  have nested : unit / 16 / 16 = unit / 0x100 ∧ unit / 0x100 / 16 = unit / 0x1000 := by omega
  unfold hexDigits
  dsimp only
  by_cases one : unit < 16
  · have zeros : unit / 0x1000 = 0 ∧ unit / 0x100 % 16 = 0 ∧ unit / 16 % 16 = 0 ∧
        unit % 16 = unit := by omega
    rw [single unit one, zeros.1, zeros.2.1, zeros.2.2.1, zeros.2.2.2]
    rfl
  rw [more unit (Nat.le_of_not_lt one)]
  by_cases two : unit < 0x100
  · have zeros : unit / 0x1000 = 0 ∧ unit / 0x100 % 16 = 0 ∧ unit / 16 % 16 = unit / 16 := by
      omega
    rw [single (unit / 16) (by omega), zeros.1, zeros.2.1, zeros.2.2]
    rfl
  rw [more (unit / 16) (by omega), nested.1]
  by_cases three : unit < 0x1000
  · have zeros : unit / 0x1000 = 0 ∧ unit / 0x100 % 16 = unit / 0x100 := by omega
    rw [single (unit / 0x100) (by omega), zeros.1, zeros.2]
    rfl
  rw [more (unit / 0x100) (by omega), nested.2, single (unit / 0x1000) (by omega)]
  rfl

/-- An escaped code unit is read as that unit. -/
private theorem unitEscape_reads
    (unit : Nat)
    (within : unit < 0x10000) :
    ∃ first second third fourth,
      unitEscape unit = ['\\', 'u', first, second, third, fourth] ∧
        codeUnit? first second third fourth = some unit := by
  refine ⟨_, _, _, _, by rw [unitEscape, hexDigits_eq within], ?_⟩
  rw [codeUnit?, hexValue?_digitChar (by omega), hexValue?_digitChar (by omega),
    hexValue?_digitChar (by omega), hexValue?_digitChar (by omega)]
  simp only [Option.bind_eq_bind, Option.bind_some]
  congr 1
  omega

/-! ## Letters -/

section Letters

variable {opening rest after letters : List Char} {letter : Char}

private theorem readLetters_close :
    Reads (readLetters opening ('"' :: rest)) [] rest := by
  rw [readLetters]
  exact ⟨_, rfl⟩

private theorem readLetters_plain
    (notQuote : letter ≠ '"')
    (notBackslash : letter ≠ '\\')
    (printable : 32 ≤ letter.toNat)
    (next : Reads (readLetters opening rest) letters after) :
    Reads (readLetters opening (letter :: rest)) (letter :: letters) after := by
  rcases next with ⟨shorter, read⟩
  rw [readLetters]
  · rw [if_neg (by omega), read]
    exact ⟨_, rfl⟩
  all_goals simp_all

private theorem readLetters_short
    {mark : Char}
    (notUnit : mark ≠ 'u')
    (meant : escaped? mark = some letter)
    (next : Reads (readLetters opening rest) letters after) :
    Reads (readLetters opening ('\\' :: mark :: rest)) (letter :: letters) after := by
  rcases next with ⟨shorter, read⟩
  rw [readLetters]
  · rw [meant]
    dsimp only
    rw [read]
    exact ⟨_, rfl⟩
  all_goals simp_all

private theorem readLetters_unit
    {unit : Nat}
    {first second third fourth : Char}
    (meant : codeUnit? first second third fourth = some unit)
    (single : surrogatePair? unit rest = .ok none)
    (some : rest ≠ [])
    (next : Reads (readLetters opening rest) letters after) :
    Reads (readLetters opening ('\\' :: 'u' :: first :: second :: third :: fourth :: rest))
      (Char.ofNat unit :: letters) after := by
  rcases next with ⟨shorter, read⟩
  rw [readLetters, meant]
  dsimp only
  rw [if_neg (by simpa using some), single]
  dsimp only
  rw [read]
  exact ⟨_, rfl⟩

private theorem readLetters_pair
    {unit : Nat}
    {first second third fourth : Char}
    {after' : Rest rest}
    (meant : codeUnit? first second third fourth = some unit)
    (pair : surrogatePair? unit rest = .ok (some (letter, after')))
    (next : Reads (readLetters opening after'.val) letters after) :
    Reads (readLetters opening ('\\' :: 'u' :: first :: second :: third :: fourth :: rest))
      (letter :: letters) after := by
  rcases next with ⟨shorter, read⟩
  have some : rest ≠ [] := by
    rintro rfl
    exact absurd after'.property (Nat.not_lt_zero _)
  rw [readLetters, meant]
  dsimp only
  rw [if_neg (by simpa using some), pair]
  dsimp only
  rw [read]
  exact ⟨_, rfl⟩

/-- The code of a letter is no half of a surrogate pair. -/
private theorem toNat_valid
    (letter : Char) :
    letter.toNat < 0xD800 ∨ 0xDFFF < letter.toNat ∧ letter.toNat < 0x110000 :=
  letter.valid

/-- A letter beyond the first plane is read from its two halves. -/
private theorem surrogatePair?_halves
    {first second third fourth : Char}
    (beyond : 0x10000 ≤ letter.toNat)
    (low : codeUnit? first second third fourth =
      some (0xDC00 + (letter.toNat - 0x10000) % 0x400))
    (some : rest ≠ []) :
    ∃ shorter, surrogatePair? (0xD800 + (letter.toNat - 0x10000) / 0x400)
        ('\\' :: 'u' :: first :: second :: third :: fourth :: rest) =
      .ok (.some (letter, ⟨rest, shorter⟩)) := by
  have valid := toNat_valid letter
  obtain ⟨next, others, rfl⟩ := List.exists_cons_of_ne_nil some
  have high : ¬(0xD800 + (letter.toNat - 0x10000) / 0x400 < 0xD800 ∨
      0xDBFF < 0xD800 + (letter.toNat - 0x10000) / 0x400) := by omega
  have low' : 0xDC00 ≤ 0xDC00 + (letter.toNat - 0x10000) % 0x400 ∧
      0xDC00 + (letter.toNat - 0x10000) % 0x400 ≤ 0xDFFF := by omega
  have whole : 0x10000 + (0xD800 + (letter.toNat - 0x10000) / 0x400 - 0xD800) * 0x400 +
      (0xDC00 + (letter.toNat - 0x10000) % 0x400 - 0xDC00) = letter.toNat := by omega
  refine ⟨by simp, ?_⟩
  simp only [surrogatePair?, Bool.or_eq_true, decide_eq_true_eq, high, if_false, low,
    Bool.and_eq_true, low', and_self, if_true, whole, Char.ofNat_toNat]

/-- The letter is escaped by a mark of one letter. -/
private def HasShortEscape
    (letter : Char) : Prop :=
  ∃ mark, mark ≠ 'u' ∧ escaped? mark = some letter ∧ escapeLetter letter = ['\\', mark]

/-- How a letter without a short escape is written. -/
private theorem escapeLetter_eq
    (notShort : ¬HasShortEscape letter) :
    escapeLetter letter =
      if 32 ≤ letter.toNat && letter.toNat ≤ 126 then [letter]
      else if letter.toNat < 0x10000 then unitEscape letter.toNat
      else
        unitEscape (0xD800 + (letter.toNat - 0x10000) / 0x400) ++
          unitEscape (0xDC00 + (letter.toNat - 0x10000) % 0x400) := by
  rw [escapeLetter]
  all_goals
    rintro rfl
    exact notShort ⟨_, by decide, rfl, rfl⟩

/-- A letter is read from its escape. -/
private theorem readLetters_escapeLetter
    (some : rest ≠ [])
    (next : Reads (readLetters opening rest) letters after) :
    Reads (readLetters opening (escapeLetter letter ++ rest)) (letter :: letters) after := by
  have valid := toNat_valid letter
  by_cases short : HasShortEscape letter
  · rcases short with ⟨mark, notUnit, meant, written⟩
    rw [written]
    exact readLetters_short notUnit meant next
  rw [escapeLetter_eq short]
  by_cases printable : (32 ≤ letter.toNat && letter.toNat ≤ 126) = true
  · rw [if_pos printable]
    rw [Bool.and_eq_true, decide_eq_true_eq] at printable
    refine readLetters_plain ?_ ?_ printable.1 next
    all_goals
      rintro rfl
      exact short ⟨_, by decide, rfl, rfl⟩
  rw [if_neg printable]
  by_cases within : letter.toNat < 0x10000
  · rcases unitEscape_reads letter.toNat within with ⟨first, second, third, fourth, written, meant⟩
    have single : surrogatePair? letter.toNat rest = .ok none := by
      unfold surrogatePair?
      exact if_pos (by simp only [Bool.or_eq_true, decide_eq_true_eq]; omega)
    have read := readLetters_unit meant single some next
    rw [Char.ofNat_toNat] at read
    rw [if_pos within, written]
    exact read
  · rcases unitEscape_reads (0xD800 + (letter.toNat - 0x10000) / 0x400) (by omega) with
      ⟨first, second, third, fourth, written, high⟩
    rcases unitEscape_reads (0xDC00 + (letter.toNat - 0x10000) % 0x400) (by omega) with
      ⟨first', second', third', fourth', written', low⟩
    rcases surrogatePair?_halves (Nat.le_of_not_lt within) low some with ⟨shorter, pair⟩
    rw [if_neg within, written, written']
    exact readLetters_pair high pair next

/-- A text in quotes is read up to its closing quote. -/
theorem readLetters_flatMap_escapeLetter
    (opening letters rest : List Char) :
    Reads (readLetters opening (letters.flatMap escapeLetter ++ '"' :: rest)) letters rest := by
  induction letters with
  | nil => exact readLetters_close
  | cons letter letters ih =>
      rw [List.flatMap_cons, List.append_assoc]
      exact readLetters_escapeLetter (List.append_ne_nil_of_right_ne_nil _ (List.cons_ne_nil _ _)) ih

end Letters

end SchemaDelta.Json
