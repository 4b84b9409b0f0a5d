import SiteClient.Text.Utf8

/-!
# Texts in UTF-8

A body in UTF-8 is read as the characters that were written to it, so nothing of a text is lost in
its bytes (`Body.toText?_toBody`). A text in ASCII has one byte for each character.
-/

namespace SiteClient

namespace Body

theorem firstChar?_append (c : Char) (b : Body) :
    firstChar? (String.utf8EncodeChar c ++ b) = some c := by
  have hlength : (String.utf8EncodeChar c).length ≤ 4 := by
    rw [String.length_utf8EncodeChar]
    exact c.utf8Size_le_four
  rw [firstChar?, List.take_append, List.take_of_length_le hlength, List.toByteArray_append]
  exact ByteArray.utf8DecodeChar?_utf8EncodeChar_append

theorem symbols_append (c : Char) (b : Body) :
    symbols (String.utf8EncodeChar c ++ b) = .char c :: symbols b := by
  have hlength := String.length_utf8EncodeChar c
  obtain ⟨first, more, hencode⟩ := List.exists_cons_of_ne_nil (l := String.utf8EncodeChar c) (by
    intro hnil
    rw [hnil, List.length_nil] at hlength
    exact absurd hlength.symm (Nat.ne_of_gt c.utf8Size_pos))
  have hmore : more.length = c.utf8Size - 1 := by
    rw [hencode, List.length_cons] at hlength
    omega
  have hfirst := firstChar?_append c b
  rw [hencode, List.cons_append] at hfirst ⊢
  rw [symbols, hfirst]
  dsimp only
  rw [← hmore, List.drop_left]

/-- **UTF-8 round trip.** The symbols of a text in UTF-8 are its characters. -/
theorem symbols_toBody (t : Text) : symbols t.toBody = t.symbols := by
  induction t with
  | nil => rw [Text.toBody, List.flatMap_nil, symbols, Text.symbols, List.map_nil]
  | cons c t ih =>
    rw [Text.toBody, List.flatMap_cons, symbols_append]
    exact congrArg _ ih

end Body

namespace Text

theorem utf8Size_of_ascii {c : Char} (h : c.toNat < 0x80) : c.utf8Size = 1 := by
  rw [Char.utf8Size_eq_one_iff, UInt32.le_iff_toNat_le]
  exact Nat.le_of_lt_succ h

theorem byteSize_of_ascii {t : Text} (h : ∀ c ∈ t, c.toNat < 0x80) : t.byteSize = t.length := by
  induction t with
  | nil => rfl
  | cons c t ih =>
    obtain ⟨hc, ht⟩ := List.forall_mem_cons.mp h
    rw [byteSize_cons, utf8Size_of_ascii hc, ih ht, List.length_cons, Nat.add_comm]

end Text
end SiteClient
