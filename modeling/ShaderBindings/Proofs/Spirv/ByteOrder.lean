import ShaderBindings.Proofs.Result
import ShaderBindings.Spirv.Module
/-!
# Byte order of binary modules

A binary module is a list of words, and its bytes may be given in either order. The reader guesses
the order from the first four bytes alone: it takes the highest byte first exactly if the first word
of every module comes out so. This module writes words out as bytes and shows that the guess is
right wherever it matters.

## Main definitions

* `bytesOfWord`, `bytesOfWords` - the bytes of words in a given order.

## Main results

* `wordsOfBytes_bytesOfWords` - reading bytes undoes writing them, in both orders.
* `bytesOfWords_wordsOfBytes` - writing words undoes reading them, so no byte is lost.
* `isBigEndian_bytesOfWords_iff` - which modules are taken to have the highest byte first.
* `parseBytes_bytesOfWords` - what is read does not depend on the byte order.
-/

set_option autoImplicit false

namespace ShaderBindings.Spirv

/-! ## Words as bytes -/

/-- The bytes of a word, highest first. -/
def bytesOfWord (w : UInt32) : List UInt8 :=
  [.ofNat (w.toNat / 0x1000000), .ofNat (w.toNat / 0x10000), .ofNat (w.toNat / 0x100),
    .ofNat w.toNat]

/-- The bytes of words in the given byte order. The order concerns the bytes of each word; the words
themselves stay in order. -/
def bytesOfWords (bigEndian : Bool) (words : List UInt32) : List UInt8 :=
  words.flatMap fun w => if bigEndian then bytesOfWord w else (bytesOfWord w).reverse

section Words

variable {bigEndian : Bool} {words : List UInt32} {bytes : List UInt8} {w : UInt32}
  {a b c d : UInt8}

/-- A word has four bytes. -/
@[simp] theorem length_bytesOfWord : (bytesOfWord w).length = 4 := rfl

/-- Each word takes four bytes.

**Proof sketch.** Induction on the words, whatever the order of their bytes. -/
theorem length_bytesOfWords : (bytesOfWords bigEndian words).length = 4 * words.length := by
  induction words with
  | nil => rfl
  | cons w words ih =>
    have hword : (if bigEndian then bytesOfWord w else (bytesOfWord w).reverse).length = 4 := by
      split <;> simp
    rw [bytesOfWords, List.flatMap_cons, List.length_append, hword, ← bytesOfWords, ih,
      List.length_cons]
    omega

/-- The number of a word that four bytes make up, the first byte being the highest. It fits in a
word. -/
theorem toNat_wordOfBytes :
    (wordOfBytes a b c d).toNat = ((a.toNat * 256 + b.toNat) * 256 + c.toNat) * 256 + d.toNat := by
  have ha := a.toNat_lt
  have hb := b.toNat_lt
  have hc := c.toNat_lt
  have hd := d.toNat_lt
  rw [wordOfBytes, UInt32.toNat_ofNat', Nat.mod_eq_of_lt (by omega)]

/-- The bytes of a word make up the word. -/
theorem wordOfBytes_bytesOfWord :
    wordOfBytes (.ofNat (w.toNat / 0x1000000)) (.ofNat (w.toNat / 0x10000))
      (.ofNat (w.toNat / 0x100)) (.ofNat w.toNat) = w := by
  have hw := w.toNat_lt
  rw [← UInt32.toNat_inj, toNat_wordOfBytes]
  simp only [UInt8.toNat_ofNat']
  omega

/-- The bytes of the word that four bytes make up are these four.

**Proof sketch.** Each byte is a quotient by a power of 256, without what is above it, and bytes are
less than 256. -/
theorem bytesOfWord_wordOfBytes : bytesOfWord (wordOfBytes a b c d) = [a, b, c, d] := by
  have ha := a.toNat_lt
  have hb := b.toNat_lt
  have hc := c.toNat_lt
  have hd := d.toNat_lt
  simp only [bytesOfWord, toNat_wordOfBytes, List.cons.injEq, ← UInt8.toNat_inj,
    UInt8.toNat_ofNat', and_true]
  omega

/-- **Reading bytes undoes writing them**, in both orders.

**Proof sketch.** Induction on the words: the first four bytes are those of the first word
(`wordOfBytes_bytesOfWord`), once they are in the right order. -/
theorem wordsOfBytes_bytesOfWords (bigEndian : Bool) (words : List UInt32) :
    wordsOfBytes bigEndian (bytesOfWords bigEndian words) = words := by
  induction words with
  | nil => rfl
  | cons w words ih =>
    rw [bytesOfWords, List.flatMap_cons, ← bytesOfWords]
    cases bigEndian with
    | true =>
      change wordOfBytes _ _ _ _ :: wordsOfBytes true (bytesOfWords true words) = _
      rw [wordOfBytes_bytesOfWord, ih]
    | false =>
      change wordOfBytes _ _ _ _ :: wordsOfBytes false (bytesOfWords false words) = _
      rw [wordOfBytes_bytesOfWord, ih]

/-- **Writing words undoes reading them**, where the bytes are a whole number of words.

**Proof sketch.** Induction as bytes are read, four at a time (`bytesOfWord_wordOfBytes`). What is
left at the end is less than a word, so nothing. -/
theorem bytesOfWords_wordsOfBytes (h : bytes.length % 4 = 0) :
    bytesOfWords bigEndian (wordsOfBytes bigEndian bytes) = bytes := by
  induction bytes using wordsOfBytes.induct with
  | case1 a b c d rest ih =>
    have hrest : rest.length % 4 = 0 := by
      simp only [List.length_cons] at h
      omega
    rw [wordsOfBytes, bytesOfWords, List.flatMap_cons, ← bytesOfWords, ih hrest]
    cases bigEndian with
    | true => simp [bytesOfWord_wordOfBytes]
    | false => simp [bytesOfWord_wordOfBytes]
  | case2 bytes hshort =>
    match bytes, hshort, h with
    | [], _, _ => rfl
    | a :: b :: c :: d :: rest, hshort, _ => exact absurd rfl (hshort a b c d rest)

/-! ## The guess -/

/-- Words whose bytes stand highest first are taken so exactly if they begin as every module does.
Words whose bytes stand lowest first are taken so exactly if they begin with the same word in the
other byte order.

**Proof sketch.** Only the first four bytes are looked at. They make up the first word or that word
with its bytes turned round, and the swapped number is the one that turns into the number of every
module. -/
theorem isBigEndian_bytesOfWords_iff :
    isBigEndian (bytesOfWords bigEndian words) = true ↔
      words.head?.map (·.toNat) = some (if bigEndian then magic else swappedMagic) := by
  cases words with
  | nil => simp [bytesOfWords, isBigEndian]
  | cons w words =>
    have hw := w.toNat_lt
    rw [bytesOfWords, List.flatMap_cons, List.head?_cons, Option.map_some, Option.some.injEq]
    cases bigEndian with
    | true =>
      change ((wordOfBytes _ _ _ _).toNat == magic) = true ↔ _
      rw [wordOfBytes_bytesOfWord, beq_iff_eq, if_pos rfl]
    | false =>
      change ((wordOfBytes (.ofNat w.toNat) (.ofNat (w.toNat / 0x100))
        (.ofNat (w.toNat / 0x10000)) (.ofNat (w.toNat / 0x1000000))).toNat == magic) = true ↔ _
      rw [toNat_wordOfBytes, beq_iff_eq, if_neg (by simp), magic, swappedMagic]
      simp only [UInt8.toNat_ofNat']
      omega

/-- Where the guess is right, the words are read. -/
theorem parseBytes_of_isBigEndian (h : isBigEndian (bytesOfWords bigEndian words) = bigEndian) :
    parseBytes (bytesOfWords bigEndian words) = parseWords words := by
  have hlength : ¬(bytesOfWords bigEndian words).length % 4 ≠ 0 := by
    rw [length_bytesOfWords]
    omega
  rw [parseBytes, if_neg hlength, h, wordsOfBytes_bytesOfWords]

/-- Bytes of whole words are those of the words that are read from them. -/
theorem exists_words_of_bytes (h : bytes.length % 4 = 0) :
    ∃ words, bytes = bytesOfWords (isBigEndian bytes) words ∧
      parseBytes bytes = parseWords words := by
  refine ⟨wordsOfBytes (isBigEndian bytes) bytes, (bytesOfWords_wordsOfBytes h).symm, ?_⟩
  rw [parseBytes, if_neg (not_not.2 h)]

end Words

/-- **What is read does not depend on the byte order.**

* Words that begin as every module does are read alike from their bytes in either order, and this is
  what is read from the words themselves.
* Bytes that stand lowest first are read as the words, unless these begin with the first word of a
  module in the other byte order.
* Whatever bytes are given, they are read as words whose bytes they are, in one of the orders, or
  are no whole number of words and refused as no module.

**Proof sketch.** The guess is right under each of the conditions (`isBigEndian_bytesOfWords_iff`),
and where it is right the words are read (`parseBytes_of_isBigEndian`). Any bytes are those of the
words that are read from them (`exists_words_of_bytes`). -/
theorem parseBytes_bytesOfWords :
    (∀ words : List UInt32, words.head?.map (·.toNat) = some magic →
      parseBytes (bytesOfWords false words) = parseWords words ∧
        parseBytes (bytesOfWords true words) = parseWords words) ∧
    (∀ words : List UInt32, words.head?.map (·.toNat) ≠ some swappedMagic →
      parseBytes (bytesOfWords false words) = parseWords words) ∧
    (∀ bytes : List UInt8, bytes.length % 4 = 0 →
      ∃ words, bytes = bytesOfWords (isBigEndian bytes) words ∧
        parseBytes bytes = parseWords words) ∧
    ∀ bytes : List UInt8, bytes.length % 4 ≠ 0 →
      ∃ e, parseBytes bytes = .error e ∧ e.kind = .invalid := by
  have hlowest (words : List UInt32) (h : words.head?.map (·.toNat) ≠ some swappedMagic) :
      parseBytes (bytesOfWords false words) = parseWords words :=
    parseBytes_of_isBigEndian (Bool.eq_false_iff.2 (mt isBigEndian_bytesOfWords_iff.1 h))
  refine ⟨fun words h => ⟨hlowest words ?_, ?_⟩, hlowest, fun _ => exists_words_of_bytes,
    fun bytes h => ?_⟩
  · rw [h]
    decide
  · exact parseBytes_of_isBigEndian (isBigEndian_bytesOfWords_iff.2 h)
  · exact ⟨.length bytes.length, parseBytes_length h, rfl⟩

/-- A module with a type of numbers. -/
def numberWords : List UInt32 := [0x07230203, 0x00010300, 0, 2, 0, 0x00030016, 1, 32]

/-- Its bytes are read alike with the highest and with the lowest byte first. -/
theorem parseBytes_numberWords :
    bytesOfWords true (numberWords.take 2) = [0x07, 0x23, 0x02, 0x03, 0x00, 0x01, 0x03, 0x00] ∧
      bytesOfWords false (numberWords.take 2) = [0x03, 0x02, 0x23, 0x07, 0x00, 0x03, 0x01, 0x00] ∧
      parseBytes (bytesOfWords false numberWords) = parseWords numberWords ∧
      parseBytes (bytesOfWords true numberWords) = parseWords numberWords := by
  refine ⟨by decide, by decide, ?_⟩
  exact parseBytes_bytesOfWords.1 numberWords (by decide)

end ShaderBindings.Spirv
