import FieldLayout.Layout.RawTokens
import FieldLayout.Proofs.Layout.FaultPlaces

/-!
# Places in words

A machine adds places as words. This is another way to the place behind a length than the exact sum
that is put into a word, and both ways lead to the same failure.

The places of a text are numbers without a bound. A text whose size fits into a word has no place
that does not, and then words and numbers tell the same.

## Main definitions

* `RawToken.stop?`: the place behind a token, as a sum of words.
* `RawToken.missingCharset`: what is reported if a length ends with the token.

## Main statements

* `RawToken.inWords_missingCharset`: the exact sum in a word is the sum of words.
* `Layout.ofRawTokens_scan`: words suffice for texts.
-/

namespace FieldLayout

/-! ## Sums of words -/

namespace RawToken

/-- The place behind the token, as a sum of words. -/
def stop? (carry : Carry) (t : RawToken) : Option UInt64 :=
  let size := t.text.utf8ByteSize
  match carry with
  | .dropped => some (t.offset + .ofNat size)
  | .trapped => if t.offset.toNat + size < UInt64.size then some (t.offset + .ofNat size) else none

/-- The failure of a length that ends with the token and has no character set behind it. -/
def missingCharset (carry : Carry) (t : RawToken) : Failure :=
  match t.stop? carry with
  | some place => .fault (.missingCharset place.toNat)
  | none => .overflow

theorem toNat_offset_add (t : RawToken) (size : Nat) :
    (t.offset + .ofNat size).toNat = (t.offset.toNat + size) % UInt64.size := by
  rw [UInt64.toNat_add, UInt64.toNat_ofNat', Nat.add_mod_mod]

/-- The exact sum in a word is the sum of words. -/
theorem inWords_missingCharset (carry : Carry) (t : RawToken) :
    (Fault.missingCharset t.token.stop).inWords carry = t.missingCharset carry := by
  have hstop : t.token.stop = t.offset.toNat + t.text.utf8ByteSize := rfl
  rw [hstop]
  cases carry with
  | dropped => simp only [Fault.inWords, missingCharset, stop?, toNat_offset_add]
  | trapped =>
    by_cases hfits : t.offset.toNat + t.text.utf8ByteSize < UInt64.size
    · simp only [Fault.inWords, missingCharset, stop?, if_pos hfits, toNat_offset_add,
        Nat.mod_eq_of_lt hfits]
    · simp only [Fault.inWords, missingCharset, stop?, if_neg hfits]

/-- The token with its place in a word. -/
def ofToken (t : Token) : RawToken := ⟨t.lexeme, t.text, .ofNat t.offset⟩

theorem token_ofToken {t : Token} (h : t.offset < UInt64.size) : (ofToken t).token = t := by
  have hoffset : (UInt64.ofNat t.offset).toNat = t.offset := by
    rw [UInt64.toNat_ofNat', Nat.mod_eq_of_lt h]
  rw [token, ofToken, hoffset]

end RawToken

/-- Behind four bytes that end with the last place of all the sum needs a carry, behind three it
does not. -/
example :
    RawToken.stop? .dropped ⟨.number 4, "4444", 0xFFFFFFFFFFFFFFFC⟩ = some 0 ∧
      RawToken.stop? .trapped ⟨.number 4, "4444", 0xFFFFFFFFFFFFFFFC⟩ = none ∧
      RawToken.stop? .trapped ⟨.number 4, "444", 0xFFFFFFFFFFFFFFFC⟩ =
        some 0xFFFFFFFFFFFFFFFF := by decide +kernel

/-- The only carry that stops a reading is that of the sum behind a length. -/
theorem Fault.inWords_eq_overflow_iff {carry : Carry} {e : Fault} :
    e.inWords carry = .overflow ↔
      carry = .trapped ∧ ∃ n, UInt64.size ≤ n ∧ e = .missingCharset n := by
  constructor
  · intro h
    unfold inWords at h
    split at h
    · next n =>
      split at h
      · cases h
      · split at h
        · cases h
        · next hn => exact ⟨rfl, n, Nat.not_lt.1 hn, rfl⟩
    · cases h
  · rintro ⟨rfl, n, hn, rfl⟩
    rw [inWords, if_neg (Nat.not_lt.2 hn)]

/-! ## Texts -/

theorem Fault.inWords_of_fits {e : Fault} (h : ∀ n, e = .missingCharset n → n < UInt64.size)
    (carry : Carry) : e.inWords carry = .fault e := by
  cases e with
  | missingCharset n =>
    have hn := h n rfl
    cases carry with
    | dropped => rw [inWords, Nat.mod_eq_of_lt hn]
    | trapped => rw [inWords, if_pos hn]
  | _ => rfl

namespace Layout

variable {s : String}

theorem size_of_parse_eq_missingCharset {n : Nat} (h : parse s = .error (.missingCharset n)) :
    n = s.utf8ByteSize := by
  rcases located_of_ofTokens_eq_error h with hlocated | ⟨_, _, _, _, _, -, -, -, hstray⟩
  · exact (hlocated.pointsInto (Token.segments_scan s)).1
  · cases hstray

/-- The tokens of a text with their places in words are read as the text is, if the size of the text
fits into a word. -/
theorem ofRawTokens_scan (hs : s.utf8ByteSize < UInt64.size) (carry : Carry) :
    ofRawTokens carry ((Token.scan s).map RawToken.ofToken) =
      match parse s with
      | .error e => .error (.fault e)
      | .ok l => .ok l := by
  have hplace : ∀ t ∈ Token.scan s, (RawToken.ofToken t).token = t := by
    intro t ht
    obtain ⟨before, after, hscan⟩ := List.append_of_mem ht
    have hsegments := Token.segments_scan s
    rw [hscan] at hsegments
    have hle : t.offset ≤ s.utf8ByteSize := hsegments.splitsAt.isValid.le_utf8ByteSize
    exact RawToken.token_ofToken (by omega)
  have htokens : ((Token.scan s).map RawToken.ofToken).map RawToken.token = Token.scan s := by
    rw [List.map_map]
    exact (List.map_congr_left hplace).trans (List.map_id _)
  rw [ofRawTokens, htokens, ← parse]
  cases h : parse s with
  | ok l => rfl
  | error e =>
    have hfits : ∀ n, e = .missingCharset n → n < UInt64.size := by
      rintro n rfl
      rw [size_of_parse_eq_missingCharset h]
      exact hs
    dsimp only
    rw [Fault.inWords_of_fits hfits]

end Layout

end FieldLayout
