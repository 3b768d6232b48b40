import HistoricalFigures.Literal.Encoded
import HistoricalFigures.Proofs.Encoding.Base64
import HistoricalFigures.Proofs.Unicode.Ascii

/-!
**What an encoded text is decoded to.** Decoding undoes Base64, and what it gives is free of control
characters: a text that does not encode such a text is left as it is.

* `IsClean`, `Encodes`: the texts that are decoded, told without the decoder.
* `encodes_encoded`: the Base64 form of a clean text encodes it.
* `decodeClean?_eq_some_iff`: what is decoded is what is encoded.
* `decodeIfEncoded_of_encodes`, `decodeIfEncoded_of_forall_not`: the two answers of the decoder.
* `decodeIfEncoded_encoded_and_cases`: both directions, over all texts.
-/
namespace HistoricalFigures.Literal

/-- The octets of a text. -/
def octetsOf (text : String) : List UInt8 := (Utf8.encode text).data.toList

/-- The Base64 form of a text. -/
def encoded (text : String) : String := String.ofList (Base64.encode (octetsOf text))

/-- No control character other than tab, line feed and carriage return is in a text. -/
def IsClean (text : String) : Prop := ∀ c ∈ text.toList, isControl c = false

/-- A text encodes another one: it is not empty, consists of whole groups of Base64 characters and can
be read as the octets of the other text, which is clean. -/
structure Encodes (value decoded : String) : Prop where
  nonempty : value ≠ ""
  symbols : ∀ c ∈ value.toList, Base64.isSymbol c = true
  whole : value.length % 4 = 0
  readable : Base64.IsReadable value.toList (octetsOf decoded)
  clean : IsClean decoded

/-- A text that can be read as the octets of a clean text encodes it, unless it is empty. -/
theorem encodes_of_isReadable {value decoded : String} (nonempty : value ≠ "")
    (readable : Base64.IsReadable value.toList (octetsOf decoded)) (clean : IsClean decoded) :
    Encodes value decoded :=
  ⟨nonempty, readable.isSymbol, String.length_toList ▸ readable.length_mod, readable, clean⟩

/-- **The Base64 form of a clean text encodes it**, unless it is empty. -/
theorem encodes_encoded {text : String} (clean : IsClean text) (nonempty : encoded text ≠ "") :
    Encodes (encoded text) text := by
  refine encodes_of_isReadable nonempty ?_ clean
  rw [encoded, String.toList_ofList]
  exact (Base64.isEncoding_encode (octetsOf text)).isReadable

/-- An encoded text is longer than what it encodes. -/
theorem Encodes.ne {value decoded : String} (encodes : Encodes value decoded) : decoded ≠ value := by
  rintro rfl
  have nonempty : decoded.toList ≠ [] := fun none => encodes.nonempty (String.toList_eq_nil_iff.mp none)
  have fewer := encodes.readable.length_lt nonempty
  have more := Utf8.length_le_length_encode decoded
  rw [String.length_toList, octetsOf] at fewer
  omega

/-- No text that is not empty encodes the empty one. -/
theorem Encodes.ne_empty {value decoded : String} (encodes : Encodes value decoded) : decoded ≠ "" := by
  rintro rfl
  have none : value.toList = [] := Base64.IsReadable.eq_nil encodes.readable
  exact encodes.nonempty (String.toList_eq_nil_iff.mp none)

/-- **What is decoded is what is encoded.** -/
theorem decodeClean?_eq_some_iff {value decoded : String} (whole : value.length % 4 = 0) :
    decodeClean? value.toList = some decoded.toList ↔
      Base64.IsReadable value.toList (octetsOf decoded) ∧ IsClean decoded := by
  rw [← String.length_toList] at whole
  simp only [decodeClean?, Option.bind_eq_bind, Option.bind_eq_some_iff]
  constructor
  · rintro ⟨octets, read, text, isText, clean⟩
    split at clean
    · cases clean
    · rename_i noControl
      obtain rfl := String.toList_inj.mp (Option.some.inj clean)
      have same : octetsOf text = octets := by
        rw [octetsOf, Utf8.encode_of_decode? isText]
      refine ⟨same ▸ (Base64.decode?_eq_some_iff whole).mp read, fun c member => ?_⟩
      have each := List.any_eq_false.mp (Bool.not_eq_true _ ▸ noControl) c member
      rwa [Bool.not_eq_true] at each
  · rintro ⟨readable, clean⟩
    refine ⟨_, (Base64.decode?_eq_some_iff whole).mpr readable, decoded, Utf8.decode?_encode decoded, ?_⟩
    have noControl : decoded.toList.any isControl = false := by
      rw [List.any_eq_false]
      intro c member
      rw [clean c member]
      exact Bool.false_ne_true
    rw [noControl, if_neg Bool.false_ne_true]

theorem looksEncoded_eq_true_iff {value : String} : looksEncoded value.toList = true ↔
    value ≠ "" ∧ value.length % 4 = 0 ∧ ∀ c ∈ value.toList, Base64.isSymbol c = true := by
  rw [looksEncoded, Bool.and_eq_true, Bool.and_eq_true, Bool.not_eq_true', decide_eq_true_eq,
    List.all_eq_true, String.length_toList, and_assoc, ← Bool.not_eq_true, List.isEmpty_iff,
    String.toList_eq_nil_iff]

/-- **An encoded text is decoded** to what it encodes. -/
theorem decodeIfEncoded_of_encodes {value decoded : String} (encodes : Encodes value decoded) :
    decodeIfEncoded value = decoded := by
  have looks := looksEncoded_eq_true_iff.mpr ⟨encodes.nonempty, encodes.whole, encodes.symbols⟩
  have read := (decodeClean?_eq_some_iff encodes.whole).mpr ⟨encodes.readable, encodes.clean⟩
  rw [decodeIfEncoded, decodeChars, if_pos looks, read, Option.getD_some, String.ofList_toList]

/-- **Any other text is left as it is.** -/
theorem decodeIfEncoded_of_forall_not {value : String} (not : ∀ decoded, ¬ Encodes value decoded) :
    decodeIfEncoded value = value := by
  rw [decodeIfEncoded, decodeChars]
  split
  · rename_i looks
    obtain ⟨nonempty, whole, symbols⟩ := looksEncoded_eq_true_iff.mp looks
    cases read : decodeClean? value.toList with
    | none => rw [Option.getD_none, String.ofList_toList]
    | some chars =>
      have same : chars = (String.ofList chars).toList := String.toList_ofList.symm
      rw [same] at read
      obtain ⟨readable, clean⟩ := (decodeClean?_eq_some_iff whole).mp read
      exact (not _ ⟨nonempty, symbols, whole, readable, clean⟩).elim
  · exact String.ofList_toList

/-- What is decoded is not empty. -/
theorem decodeChars_ne_nil {segment : List Char} (nonempty : segment ≠ []) : decodeChars segment ≠ [] := by
  intro none
  have empty : decodeIfEncoded (String.ofList segment) = "" := by
    rw [decodeIfEncoded, String.toList_ofList, none]
  by_cases encodes : ∃ decoded, Encodes (String.ofList segment) decoded
  · obtain ⟨decoded, encodes⟩ := encodes
    exact encodes.ne_empty ((decodeIfEncoded_of_encodes encodes).symm.trans empty)
  · rw [decodeIfEncoded_of_forall_not (not_exists.mp encodes), String.ofList_eq_empty_iff] at empty
    exact nonempty empty

/-- The empty text is left as it is. -/
theorem decodeIfEncoded_empty : decodeIfEncoded "" = "" :=
  decodeIfEncoded_of_forall_not fun _ encodes => encodes.nonempty rfl

/-- A text whose Base64 form is empty is empty itself. -/
theorem eq_empty_of_encoded {text : String} (empty : encoded text = "") : text = "" := by
  have isEncoding := Base64.isEncoding_encode (octetsOf text)
  rw [encoded, String.ofList_eq_empty_iff] at empty
  rw [empty] at isEncoding
  have none : octetsOf text = [] :=
    @Base64.IsEncoding.unique _ _ _ _ 0 0 isEncoding Base64.isEncoding_nil rfl
  have length := Utf8.length_le_length_encode text
  rw [← octetsOf, none] at length
  exact String.length_eq_zero_iff.mp (Nat.le_zero.mp length)

/-- **Decoding undoes Base64, and gives nothing but clean text.** The Base64 form of a clean text is
decoded to that text. A text is decoded to another one exactly if it encodes it, and left as it is
otherwise. -/
theorem decodeIfEncoded_encoded_and_cases :
    (∀ text, IsClean text → decodeIfEncoded (encoded text) = text) ∧
      ∀ value, ((∃ decoded, Encodes value decoded) →
          Encodes value (decodeIfEncoded value) ∧ decodeIfEncoded value ≠ value) ∧
        ((¬ ∃ decoded, Encodes value decoded) → decodeIfEncoded value = value) := by
  refine ⟨fun text clean => ?_, fun value => ⟨?_, fun not => ?_⟩⟩
  · by_cases nonempty : encoded text = ""
    · rw [nonempty, decodeIfEncoded_empty, eq_empty_of_encoded nonempty]
    · exact decodeIfEncoded_of_encodes (encodes_encoded clean nonempty)
  · rintro ⟨decoded, encodes⟩
    rw [decodeIfEncoded_of_encodes encodes]
    exact ⟨encodes, encodes.ne⟩
  · exact decodeIfEncoded_of_forall_not (not_exists.mp not)

/-- Of a text, its Base64 form and an ordinary word. -/
theorem decodeIfEncoded_of_greeting : IsClean "Hola" ∧ decodeIfEncoded "SG9sYQ==" = "Hola" ∧
    (¬ ∃ decoded, Encodes "Simon" decoded) ∧ decodeIfEncoded "Simon" = "Simon" := by
  have clean : IsClean "Hola" := Unicode.forall_mem_of_all (by decide)
  have written : encoded "Hola" = "SG9sYQ==" := by decide
  have word : ¬ ∃ decoded, Encodes "Simon" decoded := by
    rintro ⟨decoded, encodes⟩
    exact absurd encodes.whole (by decide)
  exact ⟨clean, written ▸ decodeIfEncoded_encoded_and_cases.1 "Hola" clean, word,
    (decodeIfEncoded_encoded_and_cases.2 "Simon").2 word⟩

/-- **More padding than a text needs is passed over**: a text is decoded that stands for no octets as it
is. -/
theorem not_isEncoding_of_paddedGroup : decodeIfEncoded "QUJD====" = "ABC" ∧
    ¬ ∃ octets, Base64.IsEncoding "QUJD====".toList octets := by
  have text : "QUJD====".toList = ['Q', 'U', 'J', 'D'] ++ List.replicate 4 '=' := by decide
  constructor
  · refine decodeIfEncoded_of_encodes (encodes_of_isReadable (by decide) ?_ ?_)
    · refine ⟨['Q', 'U', 'J', 'D'], 1, text, ?_, .inr ⟨by decide, by decide⟩⟩
      exact Base64.isEncoding_encode (octetsOf "ABC")
    · exact Unicode.forall_mem_of_all (by decide)
  · rintro ⟨octets, symbols, sextets, padding, filler, same, stand, atMost, _⟩
    have none : ∀ c ∈ symbols, c ≠ '=' := fun c member =>
      Base64.ne_of_sextet? (Base64.exists_sextet?_of_mem stand c member).choose_spec
    obtain ⟨_, rfl⟩ := Base64.symbols_unique (Unicode.forall_mem_of_all (by decide)) none (text.symm.trans same)
    exact absurd atMost (by decide)

end HistoricalFigures.Literal
