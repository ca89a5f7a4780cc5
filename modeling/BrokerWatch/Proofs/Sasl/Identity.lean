import BrokerWatch.Proofs.Sasl.Messages
import BrokerWatch.Proofs.Text.Utf8
import BrokerWatch.Sasl.Plain

/-!
# The name that a client gives

A user's name can hold the characters that part a message, and still a server reads that name and no
other. In a message of SCRAM these characters are escaped, and the escapes are written with a `=`, which
is escaped first. A message of PLAIN ends in the password, so that only the name must do without NUL.
-/

namespace BrokerWatch.Sasl

namespace Scram

/-! ### Escapes -/

/-- The name that an escaped one stands for. A `=` that starts neither `=3D` nor `=2C` is refused. -/
def unescape? : List Char → Option (List Char)
  | [] => some []
  | '=' :: '3' :: 'D' :: cs => (unescape? cs).map ('=' :: ·)
  | '=' :: '2' :: 'C' :: cs => (unescape? cs).map (',' :: ·)
  | c :: cs => if c = '=' then none else (unescape? cs).map (c :: ·)

theorem unescape?_cons_of_ne {c : Char} (h : c ≠ '=') (cs : List Char) :
    unescape? (c :: cs) = (unescape? cs).map (c :: ·) := by
  rw [unescape?, if_neg h]
  · intro cs' hc
    exact absurd hc h
  · intro cs' hc
    exact absurd hc h

theorem escape_cons (c : Char) (name : List Char) :
    escape (c :: name) =
      (if c = '=' then ['=', '3', 'D'] else if c = ',' then ['=', '2', 'C'] else [c]) ++
        escape name :=
  rfl

theorem unescape?_escape (name : List Char) : unescape? (escape name) = some name := by
  induction name with
  | nil => rfl
  | cons c name ih =>
      rw [escape_cons]
      by_cases hequals : c = '='
      · subst hequals
        show (unescape? (escape name)).map ('=' :: ·) = _
        rw [ih, Option.map_some]
      · by_cases hcomma : c = ','
        · subst hcomma
          show (unescape? (escape name)).map (',' :: ·) = _
          rw [ih, Option.map_some]
        · rw [if_neg hequals, if_neg hcomma, List.singleton_append, unescape?_cons_of_ne hequals, ih,
            Option.map_some]

theorem escape_injective {name name' : List Char} (h : escape name = escape name') :
    name = name' := by
  have hback := congrArg unescape? h
  rw [unescape?_escape, unescape?_escape] at hback
  exact Option.some.inj hback

/-- A name is escaped by replacing every `=` and then every comma. The second step leaves the escapes of
the first as they are, for there is no comma in them. -/
theorem escape_eq_replaced (name : List Char) :
    escape name =
      Text.replaced ',' ['=', '2', 'C'] (Text.replaced '=' ['=', '3', 'D'] name) := by
  rw [Text.replaced, Text.replaced, List.flatMap_assoc, escape]
  refine List.flatMap_congr fun c _ => ?_
  by_cases hequals : c = '='
  · rw [if_pos hequals, if_pos hequals]
    rfl
  · rw [if_neg hequals, if_neg hequals, List.flatMap_singleton]

/-- Every `=` in a text starts an escape. -/
def EqualsEscape (cs : List Char) : Prop :=
  ∀ back, '=' :: back <:+ cs → ['3', 'D'] <+: back ∨ ['2', 'C'] <+: back

theorem suffix_escape {a b : Char} (ha : a ≠ '=') (hb : b ≠ '=') {back cs : List Char}
    (h : '=' :: back <:+ '=' :: a :: b :: cs) : back = a :: b :: cs ∨ '=' :: back <:+ cs := by
  simp only [List.suffix_cons_iff] at h
  obtain hsame | hsame | hsame | hlater := h
  · exact .inl (List.cons.inj hsame).2
  · exact absurd (List.cons.inj hsame).1.symm ha
  · exact absurd (List.cons.inj hsame).1.symm hb
  · exact .inr hlater

theorem equalsEscape_of_unescape? {cs name : List Char} (h : unescape? cs = some name) :
    EqualsEscape cs := by
  intro back hback
  fun_induction unescape? cs generalizing name with
  | case1 => cases List.eq_nil_of_suffix_nil hback
  | case2 cs ih =>
      obtain ⟨rest, hrest, -⟩ := Option.map_eq_some_iff.1 h
      obtain rfl | hlater := suffix_escape (by decide) (by decide) hback
      · exact .inl (List.prefix_append ['3', 'D'] cs)
      · exact ih hrest hlater
  | case3 cs ih =>
      obtain ⟨rest, hrest, -⟩ := Option.map_eq_some_iff.1 h
      obtain rfl | hlater := suffix_escape (by decide) (by decide) hback
      · exact .inr (List.prefix_append ['2', 'C'] cs)
      · exact ih hrest hlater
  | case4 cs => cases h
  | case5 c cs h3D h2C hc ih =>
      obtain ⟨rest, hrest, -⟩ := Option.map_eq_some_iff.1 h
      obtain hsame | hlater := List.suffix_cons_iff.1 hback
      · exact absurd (List.cons.inj hsame).1.symm hc
      · exact ih hrest hlater

/-! ### The first message -/

section

variable {mechanism : Mechanism} {username password nonce : String} {client : Client}

theorem exists_new (username password nonce : String) (h : mechanism ≠ .plain) :
    ∃ client, Client.new mechanism username password nonce = .ok client := by
  cases mechanism with
  | plain => exact absurd rfl h
  | scramSha256 => exact ⟨_, rfl⟩
  | scramSha512 => exact ⟨_, rfl⟩

theorem toList_first_of_new (h : Client.new mechanism username password nonce = .ok client) :
    client.first.toList = ['n'] ++ ',' :: ([] ++ ',' :: ('n' :: '=' :: escape username.toList ++
      ',' :: ('r' :: '=' :: nonce.toList))) := by
  obtain ⟨algorithm, -, rfl⟩ := Client.new_eq_ok_iff.1 h
  rw [Client.first]
  simp only [String.toList_append, String.toList_ofList]
  simp

/-- A comma of the name would add a field, and a comma of the nonce another one. -/
theorem fields_first_of_new (h : Client.new mechanism username password nonce = .ok client)
    (hnonce : ',' ∉ nonce.toList) :
    Text.fields ',' client.first.toList =
      [['n'], [], 'n' :: '=' :: escape username.toList, 'r' :: '=' :: nonce.toList] := by
  have hname : ',' ∉ 'n' :: '=' :: escape username.toList := by
    simp [comma_notMem_escape]
  have hlast : ',' ∉ 'r' :: '=' :: nonce.toList := by
    simp [hnonce]
  rw [toList_first_of_new h, Text.fields_append_cons (by decide),
    Text.fields_append_cons List.not_mem_nil, Text.fields_append_cons hname,
    Text.fields_of_notMem hlast]

end

end Scram

/-! ### PLAIN -/

/-- Bytes cut at the first two that are zero. -/
structure CutAtNulls (bytes front middle back : List UInt8) : Prop where
  bytes_eq : bytes = front ++ 0 :: (middle ++ 0 :: back)
  front_free : 0 ∉ front
  middle_free : 0 ∉ middle

theorem halves_of_null {front : List UInt8} (h : 0 ∉ front) (back : List UInt8) :
    (front ++ 0 :: back).takeWhile (· != 0) = front ∧
      (front ++ 0 :: back).dropWhile (· != 0) = 0 :: back := by
  have hfront : ∀ b ∈ front, (b != 0) = true := fun b hb => bne_iff_ne.2 fun hzero => h (hzero ▸ hb)
  have hnull : ∀ b ∈ (0 :: back).head?, (b != 0) = false := by simp
  exact ⟨Text.takeWhile_run hfront hnull, Text.dropWhile_run hfront hnull⟩

/-- A list is cut at its first null in one way only. -/
theorem cut_unique {front front' back back' : List UInt8} (h : 0 ∉ front) (h' : 0 ∉ front')
    (hcut : front ++ 0 :: back = front' ++ 0 :: back') : front = front' ∧ back = back' := by
  obtain ⟨hfront, hback⟩ := halves_of_null h back
  obtain ⟨hfront', hback'⟩ := halves_of_null h' back'
  rw [hcut, hfront'] at hfront
  rw [hcut, hback'] at hback
  exact ⟨hfront.symm, (List.cons.inj hback).2.symm⟩

theorem CutAtNulls.unique {bytes front front' middle middle' back back' : List UInt8}
    (h : CutAtNulls bytes front middle back) (h' : CutAtNulls bytes front' middle' back') :
    front = front' ∧ middle = middle' ∧ back = back' := by
  obtain ⟨rfl, hbehind⟩ :=
    cut_unique h.front_free h'.front_free (h.bytes_eq.symm.trans h'.bytes_eq)
  obtain ⟨rfl, rfl⟩ := cut_unique h.middle_free h'.middle_free hbehind
  exact ⟨rfl, rfl, rfl⟩

theorem cutAtNulls_plainToken {username : String} (h : '\x00' ∉ username.toList)
    (password : String) :
    CutAtNulls (plainToken username password) [] (Text.Utf8.encode username)
      (Text.Utf8.encode password) :=
  ⟨rfl, List.not_mem_nil, Text.Utf8.zero_notMem_encode h⟩

theorem cutAtNulls_plainToken_iff {username password : String} {front middle back : List UInt8}
    (h : '\x00' ∉ username.toList) :
    CutAtNulls (plainToken username password) front middle back ↔
      front = [] ∧ Text.Utf8.decode middle = .ok username ∧
        Text.Utf8.decode back = .ok password := by
  rw [Text.Utf8.decode_eq_ok_iff, Text.Utf8.decode_eq_ok_iff]
  have hcut := cutAtNulls_plainToken h password
  constructor
  · exact fun hother => hother.unique hcut
  · intro hparts
    obtain ⟨rfl, rfl, rfl⟩ := hparts
    exact hcut

/-! ### Both mechanisms -/

/-- The first message of a client has four fields, of which the third is the user's name in escapes and
the last the nonce. Unescaping gives the name back, so messages for different names differ. A PLAIN
message that is cut at its first two nulls gives no authorization name, the user's name and the
password, and that is the only such cut. -/
theorem identity_unambiguous :
    (∀ mechanism username password nonce, mechanism ≠ .plain → ',' ∉ nonce.toList →
      ∃ client name, Scram.Client.new mechanism username password nonce = .ok client ∧
        Text.fields ',' client.first.toList =
          [['n'], [], 'n' :: '=' :: name, 'r' :: '=' :: nonce.toList] ∧
        name = Text.replaced ',' ['=', '2', 'C']
          (Text.replaced '=' ['=', '3', 'D'] username.toList) ∧
        ',' ∉ name ∧ Scram.EqualsEscape name ∧ Scram.unescape? name = some username.toList) ∧
      (∀ mechanism mechanism' username username' password password' nonce nonce' client client',
        ',' ∉ nonce.toList → ',' ∉ nonce'.toList →
        Scram.Client.new mechanism username password nonce = .ok client →
        Scram.Client.new mechanism' username' password' nonce' = .ok client' →
        username ≠ username' → client.first ≠ client'.first) ∧
      ∀ username password front middle back, '\x00' ∉ username.toList →
        (CutAtNulls (plainToken username password) front middle back ↔
          front = [] ∧ Text.Utf8.decode middle = .ok username ∧
            Text.Utf8.decode back = .ok password) := by
  refine ⟨?_, ?_, fun username password front middle back h => cutAtNulls_plainToken_iff h⟩
  · intro mechanism username password nonce hmechanism hnonce
    obtain ⟨client, hnew⟩ := Scram.exists_new username password nonce hmechanism
    have hback := Scram.unescape?_escape username.toList
    exact ⟨client, Scram.escape username.toList, hnew, Scram.fields_first_of_new hnew hnonce,
      Scram.escape_eq_replaced _, Scram.comma_notMem_escape _, Scram.equalsEscape_of_unescape? hback,
      hback⟩
  · intro mechanism mechanism' username username' password password' nonce nonce' client client'
      hnonce hnonce' hnew hnew' hne hfirst
    have hfields := Scram.fields_first_of_new hnew hnonce
    rw [hfirst, Scram.fields_first_of_new hnew' hnonce'] at hfields
    have hname : Scram.escape username'.toList = Scram.escape username.toList := by
      simp only [List.cons.injEq] at hfields
      exact hfields.2.2.1.2.2
    exact hne (String.toList_inj.1 (Scram.escape_injective hname)).symm

/-- A name that spells an escape and holds both characters that are escaped, another name that the first
one's comma would turn into, and a password with a null of its own. -/
theorem identity_unambiguous_escapes :
    (∃ client name, Scram.Client.new .scramSha256 "=2C,n=x" "pw" "r=1" = .ok client ∧
      Scram.EqualsEscape name ∧ Scram.unescape? name = some "=2C,n=x".toList) ∧
      (∀ client client', Scram.Client.new .scramSha256 "," "pw" "1" = .ok client →
        Scram.Client.new .scramSha512 "=2C" "" "1" = .ok client' → client.first ≠ client'.first) ∧
      CutAtNulls (plainToken "us,er" "p\x00w") [] (Text.Utf8.encode "us,er")
        (Text.Utf8.encode "p\x00w") := by
  obtain ⟨hread, happart, hplain⟩ := identity_unambiguous
  obtain ⟨client, name, hnew, -, -, -, hequals, hback⟩ :=
    hread .scramSha256 "=2C,n=x" "pw" "r=1" (by decide) (by decide)
  refine ⟨⟨client, name, hnew, hequals, hback⟩, fun client client' h h' => ?_, ?_⟩
  · exact happart _ _ _ _ _ _ _ _ client client' (by decide) (by decide) h h' (by decide)
  · exact (hplain _ _ _ _ _ (by decide)).2
      ⟨rfl, Text.Utf8.decode_encode _, Text.Utf8.decode_encode _⟩

end BrokerWatch.Sasl
