import BrokerWatch.Base64

/-!
# Reading base64 is the inverse of writing it

Every text is the base64 form of one byte string at most, and reading finds it: no second spelling of
the same bytes is accepted.
-/

namespace BrokerWatch.Base64

/-! ### Symbols -/

theorem value?_symbol {n : Nat} (h : n < 64) : value? (symbol n).toNat = some n := by
  have hall : ∀ n : Fin 64, value? (symbol n).toNat = some n.val := by decide
  exact hall ⟨n, h⟩

theorem symbol_ne_pad {n : Nat} (h : n < 64) : symbol n ≠ '=' := by
  have hall : ∀ n : Fin 64, symbol n ≠ '=' := by decide
  exact hall ⟨n, h⟩

theorem symbol_ne_comma {n : Nat} (h : n < 64) : symbol n ≠ ',' := by
  have hall : ∀ n : Fin 64, symbol n ≠ ',' := by decide
  exact hall ⟨n, h⟩

/-- A character with a value is the symbol of that value. -/
theorem of_value? {c : Char} {n : Nat} (h : value? c.toNat = some n) : n < 64 ∧ c = symbol n := by
  have hcode : ∀ m, c.toNat = m → c = Char.ofNat m := by
    intro m hm
    subst hm
    exact (Char.ofNat_toNat c).symm
  rw [value?] at h
  by_cases hupper : 65 ≤ c.toNat ∧ c.toNat ≤ 90
  · rw [if_pos hupper] at h
    cases h
    refine ⟨by omega, hcode _ ?_⟩
    rw [if_pos (by omega)]
    omega
  · rw [if_neg hupper] at h
    by_cases hlower : 97 ≤ c.toNat ∧ c.toNat ≤ 122
    · rw [if_pos hlower] at h
      cases h
      refine ⟨by omega, hcode _ ?_⟩
      rw [if_neg (by omega), if_pos (by omega)]
      omega
    · rw [if_neg hlower] at h
      by_cases hdigit : 48 ≤ c.toNat ∧ c.toNat ≤ 57
      · rw [if_pos hdigit] at h
        cases h
        refine ⟨by omega, hcode _ ?_⟩
        rw [if_neg (by omega), if_neg (by omega), if_pos (by omega)]
        omega
      · rw [if_neg hdigit] at h
        by_cases hplus : c.toNat = 43
        · rw [if_pos hplus] at h
          cases h
          exact ⟨by omega, hcode _ hplus⟩
        · rw [if_neg hplus] at h
          by_cases hslash : c.toNat = 47
          · rw [if_pos hslash] at h
            cases h
            exact ⟨by omega, hcode _ hslash⟩
          · rw [if_neg hslash] at h
            cases h

/-! ### The two round trips -/

theorem toNat_byte {n : Nat} (h : n < 256) : (UInt8.ofNat n).toNat = n :=
  UInt8.toNat_ofNat_of_lt' h

theorem byte_eq {x : UInt8} {n : Nat} (h : n = x.toNat) : UInt8.ofNat n = x := by
  rw [h, UInt8.ofNat_toNat]

theorem decodeChars?_encodeChars (bytes : List UInt8) :
    decodeChars? (encodeChars bytes) = some bytes := by
  induction bytes using encodeChars.induct with
  | case1 => rfl
  | case2 x =>
      have hx := x.toNat_lt
      rw [encodeChars, decodeChars?, value?_symbol (by omega), value?_symbol (by omega)]
      simp only [Option.bind_eq_bind, Option.bind_some]
      rw [if_pos (by omega), byte_eq (x := x) (by omega)]
  | case3 x y =>
      have hx := x.toNat_lt
      have hy := y.toNat_lt
      rw [encodeChars, decodeChars?.eq_3 _ _ _ (symbol_ne_pad (by omega)),
        value?_symbol (by omega), value?_symbol (by omega), value?_symbol (by omega)]
      simp only [Option.bind_eq_bind, Option.bind_some]
      rw [if_pos (by omega), byte_eq (x := x) (by omega), byte_eq (x := y) (by omega)]
  | case4 x y z rest ih =>
      have hx := x.toNat_lt
      have hy := y.toNat_lt
      have hz := z.toNat_lt
      have hlast : symbol (z.toNat % 64) ≠ '=' := symbol_ne_pad (by omega)
      rw [encodeChars, decodeChars?.eq_4 _ _ _ _ _ (fun _ hd _ => hlast hd) (fun hd _ => hlast hd),
        value?_symbol (by omega), value?_symbol (by omega), value?_symbol (by omega),
        value?_symbol (by omega), ih]
      simp only [Option.bind_eq_bind, Option.bind_some, Option.pure_def]
      rw [byte_eq (x := x) (by omega), byte_eq (x := y) (by omega), byte_eq (x := z) (by omega)]

theorem eq_encodeChars {cs : List Char} {bytes : List UInt8} (h : decodeChars? cs = some bytes) :
    cs = encodeChars bytes := by
  induction cs using decodeChars?.induct generalizing bytes with
  | case1 =>
      cases h
      rfl
  | case2 a b =>
      rw [decodeChars?] at h
      simp only [Option.bind_eq_bind, Option.bind_eq_some_iff] at h
      obtain ⟨a, ha, b, hb, h⟩ := h
      obtain ⟨ha, rfl⟩ := of_value? ha
      obtain ⟨hb, rfl⟩ := of_value? hb
      by_cases hspare : b % 16 = 0
      · rw [if_pos hspare] at h
        cases h
        rw [encodeChars, toNat_byte (by omega), show (a * 4 + b / 16) / 4 = a by omega,
          show (a * 4 + b / 16) % 4 * 16 = b by omega]
      · rw [if_neg hspare] at h
        cases h
  | case3 a b c hc =>
      rw [decodeChars?.eq_3 _ _ _ hc] at h
      simp only [Option.bind_eq_bind, Option.bind_eq_some_iff] at h
      obtain ⟨a, ha, b, hb, c, hc, h⟩ := h
      obtain ⟨ha, rfl⟩ := of_value? ha
      obtain ⟨hb, rfl⟩ := of_value? hb
      obtain ⟨hc, rfl⟩ := of_value? hc
      by_cases hspare : c % 4 = 0
      · rw [if_pos hspare] at h
        cases h
        rw [encodeChars, toNat_byte (by omega), toNat_byte (by omega),
          show (a * 4 + b / 16) / 4 = a by omega,
          show (a * 4 + b / 16) % 4 * 16 + (b % 16 * 16 + c / 4) / 16 = b by omega,
          show (b % 16 * 16 + c / 4) % 16 * 4 = c by omega]
      · rw [if_neg hspare] at h
        cases h
  | case4 a b c d rest hpads hpad ih =>
      rw [decodeChars?.eq_4 _ _ _ _ _ hpads hpad] at h
      simp only [Option.bind_eq_bind, Option.bind_eq_some_iff, Option.pure_def] at h
      obtain ⟨a, ha, b, hb, c, hc, d, hd, bytes, hbytes, h⟩ := h
      obtain ⟨ha, rfl⟩ := of_value? ha
      obtain ⟨hb, rfl⟩ := of_value? hb
      obtain ⟨hc, rfl⟩ := of_value? hc
      obtain ⟨hd, rfl⟩ := of_value? hd
      cases h
      rw [encodeChars, toNat_byte (by omega), toNat_byte (by omega), toNat_byte (by omega),
        show (a * 4 + b / 16) / 4 = a by omega,
        show (a * 4 + b / 16) % 4 * 16 + (b % 16 * 16 + c / 4) / 16 = b by omega,
        show (b % 16 * 16 + c / 4) % 16 * 4 + (c % 4 * 64 + d) / 64 = c by omega,
        show (c % 4 * 64 + d) % 64 = d by omega, ih hbytes]
  | case5 cs hnil hone htwo hgroup =>
      rw [decodeChars?.eq_5 _ hnil hone htwo hgroup] at h
      cases h

theorem decode_eq_ok_iff {text : String} {bytes : List UInt8} :
    decode text = .ok bytes ↔ text = encode bytes := by
  rw [decode]
  constructor
  · intro h
    cases hread : decodeChars? text.toList with
    | none =>
        rw [hread] at h
        cases h
    | some read =>
        rw [hread] at h
        cases h
        rw [encode, ← eq_encodeChars hread, String.ofList_toList]
  · intro htext
    subst htext
    rw [encode, String.toList_ofList, decodeChars?_encodeChars]

/-- No separator of fields stands in a base64 form. -/
theorem comma_notMem_encode (bytes : List UInt8) : ',' ∉ (encode bytes).toList := by
  have hsymbol : ∀ {n}, n < 64 → ',' ≠ symbol n := fun hn => (symbol_ne_comma hn).symm
  rw [encode, String.toList_ofList]
  induction bytes using encodeChars.induct with
  | case1 => exact List.not_mem_nil
  | case2 x =>
      have hx := x.toNat_lt
      simp only [encodeChars, List.mem_cons, List.not_mem_nil, or_false, not_or]
      exact ⟨hsymbol (by omega), hsymbol (by omega), by decide, by decide⟩
  | case3 x y =>
      have hx := x.toNat_lt
      have hy := y.toNat_lt
      simp only [encodeChars, List.mem_cons, List.not_mem_nil, or_false, not_or]
      exact ⟨hsymbol (by omega), hsymbol (by omega), hsymbol (by omega), by decide⟩
  | case4 x y z rest ih =>
      have hx := x.toNat_lt
      have hy := y.toNat_lt
      have hz := z.toNat_lt
      simp only [encodeChars, List.mem_cons, not_or]
      exact ⟨hsymbol (by omega), hsymbol (by omega), hsymbol (by omega), hsymbol (by omega), ih⟩

end BrokerWatch.Base64
