import Mathlib.Data.String.Basic
import Mathlib.Data.List.Nodup
import RadixWalletKit.Basic

/-!
# BIP39 words

`BIP39Word::new` of `bip39_word.rs` looks a word up in its language's word list through the
memoized `index_of_word_in_bip39_wordlist_of_language`, which asks `bip39::Language::find_word`
for the word's place and turns it into a `U11` with `expect("Less than 2048")`.  An absent word
is `UnknownBIP39Word`, not a panic.  Words order by their index, not by their text.

The word lists are data of the `bip39` crate, not under src/, so the model takes them as a
parameter that carries what the crate's lists satisfy: no word twice, and at most 2048 words
(each list has exactly 2048).  Over every such list `new` never panics; it accepts exactly the
words of the list, each with the index of its place.
-/

namespace RadixWalletKit

/-- `HDPathError`, restricted to the variant a word lookup returns. -/
inductive HDPathError where
  | unknownBIP39Word
  deriving DecidableEq, Repr

/-- `BIP39Language`: English is the only language the crate is built with. -/
inductive BIP39Language where
  | english
  deriving DecidableEq, Repr

/-- `U11` (not under src/): a `u16` below 2048. -/
structure U11 where
  inner : UInt16
  lt : inner.toNat < 2048
  deriving DecidableEq

/-- Modelled from the spec: `U11::new` is not under src/.  The value, when it is below
2048. -/
def U11.new (inner : UInt16) : Option U11 :=
  if h : inner.toNat < 2048 then some ⟨inner, h⟩ else none

/-- A word list of the `bip39` crate: no word twice, and at most 2048 words. -/
structure WordList where
  words : List String
  nodup : words.Nodup
  length_le : words.length ≤ 2048

/-- `BIP39Word`. -/
structure BIP39Word where
  word : String
  index : U11
  language : BIP39Language
  deriving DecidableEq

section Lookup

variable (wordList : BIP39Language → WordList)

/-- `bip39::Language::find_word` (not under src/).  Modelled from the spec: the place of the word
in the language's list, as a `u16`. -/
def findWord (language : BIP39Language) (word : String) : Option UInt16 :=
  ((wordList language).words.findIdx? (· == word)).map Nat.toUInt16

/-- `index_of_word_in_bip39_wordlist_of_language`.  The source memoizes it; its cache only ever
returns what the function computed for the same arguments, so the model is the function. -/
def indexOfWordInBip39WordlistOfLanguage (word : String) (language : BIP39Language) :
    Returns (Option U11) :=
  match findWord wordList language word with
  | none => .value none
  | some i =>
    match U11.new i with
    | some index => .value (some index)
    | none => .panic "Less than 2048"

/-- `BIP39Word::new`. -/
def BIP39Word.new (word : String) (language : BIP39Language) :
    Returns (Except HDPathError BIP39Word) := do
  match ← indexOfWordInBip39WordlistOfLanguage wordList word language with
  | none => pure (.error .unknownBIP39Word)
  | some index => pure (.ok ⟨word, index, language⟩)

/-- `BIP39Word::english`. -/
def BIP39Word.english (word : String) : Returns (Except HDPathError BIP39Word) :=
  BIP39Word.new wordList word .english

/-- `Ord::cmp`: by index. -/
def BIP39Word.cmp (a b : BIP39Word) : Ordering := compare a.index.inner b.index.inner

/-- A word is found at the place it has in the list. -/
theorem findIdx?_getElem_of_nodup {l : List String} (hl : l.Nodup) {i : Nat} (hi : i < l.length) :
    l.findIdx? (· == l[i]) = some i := by
  rw [List.findIdx?_eq_some_iff_getElem]
  refine ⟨hi, beq_self_eq_true _, fun j hji => ?_⟩
  rw [beq_iff_eq, hl.getElem_inj_iff]
  omega

theorem toNat_toUInt16_of_lt {i : Nat} (hi : i < 2048) : i.toUInt16.toNat = i :=
  UInt16.toNat_ofNat_of_lt (by simp only [UInt16.size]; omega)

/-- The word at place `i` is found, as a word with index `i`. -/
theorem BIP39Word.new_getElem (language : BIP39Language) {i : Nat}
    (hi : i < (wordList language).words.length) :
    ∃ index : U11, index.inner.toNat = i ∧
      BIP39Word.new wordList (wordList language).words[i] language =
        .value (.ok ⟨(wordList language).words[i], index, language⟩) := by
  have h2048 : i < 2048 := Nat.lt_of_lt_of_le hi (wordList language).length_le
  have hlt : i.toUInt16.toNat < 2048 := (toNat_toUInt16_of_lt h2048).symm ▸ h2048
  refine ⟨⟨i.toUInt16, hlt⟩, toNat_toUInt16_of_lt h2048, ?_⟩
  simp only [BIP39Word.new, indexOfWordInBip39WordlistOfLanguage, findWord,
    findIdx?_getElem_of_nodup (wordList language).nodup hi, Option.map_some', U11.new, hlt,
    dite_true, Returns.value_bind, Returns.pure_eq]

/-- A word that is not in the list is `UnknownBIP39Word`. -/
theorem BIP39Word.new_of_not_mem {language : BIP39Language} {word : String}
    (h : word ∉ (wordList language).words) :
    BIP39Word.new wordList word language = .value (.error .unknownBIP39Word) := by
  have hnone : (wordList language).words.findIdx? (· == word) = none :=
    List.findIdx?_eq_none_iff.mpr fun w hw => beq_eq_false_iff_ne.mpr fun hww => h (hww ▸ hw)
  simp only [BIP39Word.new, indexOfWordInBip39WordlistOfLanguage, findWord, hnone,
    Option.map_none', Returns.value_bind, Returns.pure_eq]

/-- What `new` accepts is a word of the list, with the index of its place. -/
theorem BIP39Word.new_eq_ok {language : BIP39Language} {word : String} {b : BIP39Word}
    (h : BIP39Word.new wordList word language = .value (.ok b)) :
    ∃ (i : Nat) (hi : i < (wordList language).words.length),
      (wordList language).words[i] = word ∧ b.index.inner.toNat = i := by
  by_cases hmem : word ∈ (wordList language).words
  · obtain ⟨i, hi, rfl⟩ := List.getElem_of_mem hmem
    obtain ⟨index, hindex, hnew⟩ := BIP39Word.new_getElem wordList language hi
    rw [hnew] at h
    cases h
    exact ⟨i, hi, rfl, hindex⟩
  · rw [BIP39Word.new_of_not_mem wordList hmem] at h
    cases h

end Lookup

end RadixWalletKit
