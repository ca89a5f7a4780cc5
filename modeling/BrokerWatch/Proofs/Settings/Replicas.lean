import BrokerWatch.Proofs.Numeral
import BrokerWatch.Proofs.Settings.Resolution
import Mathlib.Data.List.Nodup

/-!
# The servers of a topology

The addresses of the replicas are joined into one text and cut out of it again. A comma is all that
can go wrong with this: the names in an address can hold one, and then each address falls apart into
two servers at least. Blanks do no harm, for an address starts and ends with characters of its own.
-/

namespace BrokerWatch

/-! ### The characters of an address -/

namespace Discovery

variable {workload location gvc : String} {port : UInt16} {index : Nat}

theorem toList_replicaAddress (workload location gvc : String) (port : UInt16) (index : Nat) :
    (replicaAddress workload location gvc port index).toList =
      "replica-".toList ++ (index.repr.toList ++ '.' :: (workload.toList ++ '.' ::
        (location.toList ++ '.' :: (gvc.toList ++
          (".cpln.local:".toList ++ port.toNat.repr.toList))))) := by
  -- Its equation is slow to derive, as that of any long concatenation.
  delta replicaAddress
  simp only [String.append_assoc, String.toList_append]
  rfl

theorem comma_mem_replicaAddress_iff :
    ',' ∈ (replicaAddress workload location gvc port index).toList ↔
      ',' ∈ workload.toList ∨ ',' ∈ location.toList ∨ ',' ∈ gvc.toList := by
  have hfront : ',' ∉ "replica-".toList := by decide
  have hdomain : ',' ∉ ".cpln.local:".toList := by decide
  have hdot : ',' ≠ '.' := by decide
  simp only [toList_replicaAddress, List.mem_append, List.mem_cons, hfront, hdomain, hdot,
    Numeral.comma_notMem_repr, false_or, or_false]

theorem head?_replicaAddress (workload location gvc : String) (port : UInt16) (index : Nat) :
    (replicaAddress workload location gvc port index).toList.head? = some 'r' := by
  rw [toList_replicaAddress]
  rfl

theorem isDigit_of_getLast? {c : Char}
    (h : (replicaAddress workload location gvc port index).toList.getLast? = some c) :
    c.isDigit = true := by
  obtain ⟨hne, hdigits, -⟩ := Numeral.areDigitsOf_repr port.toNat
  rw [toList_replicaAddress] at h
  simp only [← List.append_assoc, ← List.cons_append] at h
  rw [List.getLast?_append_of_ne_nil _ hne] at h
  exact hdigits c (List.mem_of_getLast? h)

theorem tight_replicaAddress (workload location gvc : String) (port : UInt16) (index : Nat) :
    Text.Tight (replicaAddress workload location gvc port index).toList where
  head := by
    intro c hc
    rw [head?_replicaAddress, Option.mem_some_iff] at hc
    subst hc
    decide
  last := fun _ hc => Text.isBlank_of_isDigit (isDigit_of_getLast? hc)

theorem isServer_replicaAddress
    (h : ¬(',' ∈ workload.toList ∨ ',' ∈ location.toList ∨ ',' ∈ gvc.toList)) :
    IsServer (replicaAddress workload location gvc port index) where
  ne_empty := by
    intro hempty
    have hmem := mem_replicaAddress workload location gvc port index
    rw [hempty] at hmem
    exact List.not_mem_nil hmem
  comma_notMem := comma_mem_replicaAddress_iff.not.2 h
  tight := tight_replicaAddress ..

/-- The number of a replica can be read off its address: it stands in front of the first dot. -/
theorem replicaAddress_injective (workload location gvc : String) (port : UInt16) :
    Function.Injective (replicaAddress workload location gvc port) := by
  intro index index' h
  have hdot : ∀ n : Nat, '.' ∉ n.repr.toList := fun n hmem =>
    absurd ((Numeral.areDigitsOf_repr n).2.1 '.' hmem) (by decide)
  have hlist := congrArg String.toList h
  rw [toList_replicaAddress, toList_replicaAddress] at hlist
  have hfirst := congrArg (Text.splitFirst '.') (List.append_cancel_left hlist)
  rw [Text.splitFirst_append_cons (hdot index), Text.splitFirst_append_cons (hdot index')] at hfirst
  obtain ⟨hrepr, -⟩ := Prod.mk.inj (Option.some.inj hfirst)
  rw [← (Numeral.areDigitsOf_repr index).2.2, hrepr, (Numeral.areDigitsOf_repr index').2.2]

end Discovery

/-! ### Cutting the addresses apart -/

namespace Options

/-- A comma inside a text has a server on either side. -/
theorem two_le_length_splitServers {text : String} (hcomma : ',' ∈ text.toList)
    (htight : Text.Tight text.toList) (hhead : text.toList.head? ≠ some ',')
    (hlast : text.toList.getLast? ≠ some ',') : 2 ≤ (splitServers text).length := by
  obtain ⟨front, back, hcut⟩ := List.append_of_mem hcomma
  have htext : text = String.ofList front ++ "," ++ String.ofList back := by
    rw [← String.toList_inj, hcut]
    simp
  have hfront : splitServers (String.ofList front) ≠ [] := by
    cases front with
    | nil => exact absurd (congrArg List.head? hcut) hhead
    | cons c front =>
        have hc : text.toList.head? = some c := congrArg List.head? hcut
        refine splitServers_ne_nil_of_mem (c := c) (by simp) ?_ (htight.head c hc)
        rintro rfl
        exact hhead hc
  have hback : splitServers (String.ofList back) ≠ [] := by
    rcases List.eq_nil_or_concat back with rfl | ⟨back, d, rfl⟩
    · exact absurd (by rw [hcut, List.getLast?_concat]) hlast
    · have hd : text.toList.getLast? = some d := by
        rw [hcut, List.concat_eq_append, ← List.cons_append, ← List.append_assoc,
          List.getLast?_concat]
      refine splitServers_ne_nil_of_mem (c := d) (by simp) ?_ (htight.last d hd)
      rintro rfl
      exact hlast hd
  rw [htext, splitServers_append, List.length_append]
  exact Nat.add_le_add (List.length_pos_iff.2 hfront) (List.length_pos_iff.2 hback)

theorem two_mul_length_le_splitServers {texts : List String}
    (h : ∀ text ∈ texts, 2 ≤ (splitServers text).length) :
    2 * texts.length ≤ (splitServers (",".intercalate texts)).length := by
  rw [splitServers_intercalate_eq_flatMap]
  induction texts with
  | nil => exact Nat.zero_le _
  | cons text texts ih =>
      obtain ⟨htext, htexts⟩ := List.forall_mem_cons.1 h
      rw [List.length_cons, Nat.mul_succ, Nat.add_comm, List.flatMap_cons, List.length_append]
      exact Nat.add_le_add htext (ih htexts)

end Options

namespace Topology

def addresses (t : Topology) : List String :=
  (List.range (Discovery.replicas t.replicaCount)).map
    (Discovery.replicaAddress t.workloadName t.location t.gvcName t.kafkaPort)

/-- A name in the addresses has a comma in it. -/
def HasComma (t : Topology) : Prop :=
  ',' ∈ t.workloadName.toList ∨ ',' ∈ t.location.toList ∨ ',' ∈ t.gvcName.toList

instance (t : Topology) : Decidable t.HasComma :=
  inferInstanceAs (Decidable (_ ∨ _ ∨ _))

variable {t : Topology}

theorem bootstrapServers_eq (t : Topology) : t.bootstrapServers = ",".intercalate t.addresses := rfl

theorem length_addresses (t : Topology) :
    t.addresses.length = Discovery.replicas t.replicaCount := by
  rw [addresses, List.length_map, List.length_range]

theorem addresses_ne_nil (t : Topology) : t.addresses ≠ [] := by
  rw [← List.length_pos_iff, length_addresses]
  exact Nat.lt_of_lt_of_le Nat.zero_lt_one (Nat.le_max_left ..)

theorem nodup_addresses (t : Topology) : t.addresses.Nodup :=
  List.Nodup.map (Discovery.replicaAddress_injective ..) List.nodup_range

theorem getElem?_addresses {i : Nat} (h : i < Discovery.replicas t.replicaCount) :
    t.addresses[i]? = some
      (Discovery.replicaAddress t.workloadName t.location t.gvcName t.kafkaPort i) := by
  rw [addresses, List.getElem?_map, List.getElem?_range h, Option.map_some]

theorem splitServers_of_not_hasComma (h : ¬t.HasComma) :
    Options.splitServers t.bootstrapServers = t.addresses := by
  rw [bootstrapServers_eq]
  refine Options.splitServers_intercalate t.addresses_ne_nil ?_
  rw [addresses, List.forall_mem_map]
  exact fun index _ => Discovery.isServer_replicaAddress h

theorem two_mul_le_length_splitServers (h : t.HasComma) :
    2 * t.addresses.length ≤ (Options.splitServers t.bootstrapServers).length := by
  have hpieces : ∀ address ∈ t.addresses, 2 ≤ (Options.splitServers address).length := by
    rw [addresses, List.forall_mem_map]
    intro index _
    refine Options.two_le_length_splitServers (Discovery.comma_mem_replicaAddress_iff.2 h)
      (Discovery.tight_replicaAddress ..) ?_ fun hlast => ?_
    · rw [Discovery.head?_replicaAddress]
      decide
    · exact absurd (Discovery.isDigit_of_getLast? hlast) (by decide)
  rw [bootstrapServers_eq]
  exact Options.two_mul_length_le_splitServers hpieces

end Topology

/-! ### The topology of settings -/

namespace Options

variable {o : Options} {environment : Discovery.Environment} {s : Settings} {t : Topology}

theorem topology_of_resolve (h : o.resolve environment = .ok s) (ht : s.topology = some t) :
    o.topology environment = .ok t := by
  obtain ⟨brokerId, servers, topology, -, hservers, rfl⟩ := resolve_eq_ok_iff.1 h
  obtain rfl : topology = some t := ht
  rw [Options.servers] at hservers
  split at hservers
  · cases hservers
  · split at hservers
    · rename_i found
      obtain ⟨-, hsame⟩ := Prod.mk.inj (Except.ok.inj hservers)
      rwa [← Option.some.inj hsame]
    · cases hservers

theorem replicaCount_of_topology (h : o.topology environment = .ok t) :
    t.replicaCount.toInt = max 1 o.replicaCount.toInt := by
  obtain ⟨workload, -, h⟩ := bind_eq_ok_iff.1 h
  obtain ⟨location, -, h⟩ := bind_eq_ok_iff.1 h
  obtain ⟨gvc, -, h⟩ := bind_eq_ok_iff.1 h
  have ht : (if o.replicaCount < 1 then 1 else o.replicaCount) = t.replicaCount :=
    congrArg Topology.replicaCount (Except.ok.inj h)
  have hone : (1 : Int32).toInt = 1 := rfl
  rw [← ht]
  simp only [Int32.lt_iff_toInt_lt, hone]
  split <;> omega

/-- Settings have as many servers as replicas if no name has a comma in it, and more than that if one
has. In the first case the servers are the addresses of the replicas in their order, as they were
built and each of them once. -/
theorem servers_of_topology (h : o.resolve environment = .ok s) (ht : s.topology = some t) :
    t.replicaCount.toInt = max 1 o.replicaCount.toInt ∧
      ((s.bootstrapServers.length : Int) = t.replicaCount.toInt ↔ ¬t.HasComma) ∧
      (¬t.HasComma →
        (∀ i : Nat, (i : Int) < t.replicaCount.toInt → s.bootstrapServers[i]? = some
          s!"replica-{i}.{t.workloadName}.{t.location}.{t.gvcName}.cpln.local:{t.kafkaPort.toNat}") ∧
        s.bootstrapServers.Nodup ∧ ",".intercalate s.bootstrapServers = t.bootstrapServers) ∧
      (t.HasComma → t.replicaCount.toInt < s.bootstrapServers.length) := by
  have hcount := replicaCount_of_topology (topology_of_resolve h ht)
  have hreplicas : (Discovery.replicas t.replicaCount : Int) = t.replicaCount.toInt := by
    rw [Discovery.replicas]
    omega
  have hservers : s.bootstrapServers = splitServers t.bootstrapServers := by
    obtain ⟨-, hnone, -⟩ | ⟨-, t', ht', -, hsplit⟩ := servers_of_resolve h
    · rw [hnone] at ht
      cases ht
    · rw [ht, Option.some.injEq] at ht'
      rw [hsplit, ht']
  have hbuilt : ¬t.HasComma → s.bootstrapServers = t.addresses := fun hnone =>
    hservers.trans (Topology.splitServers_of_not_hasComma hnone)
  have hmore : t.HasComma → t.replicaCount.toInt < s.bootstrapServers.length := by
    intro hcomma
    have htwo := Topology.two_mul_le_length_splitServers hcomma
    rw [t.length_addresses, ← hservers] at htwo
    omega
  refine ⟨hcount, ⟨fun hlength hcomma => ?_, fun hnone => ?_⟩, fun hnone => ⟨fun i hi => ?_, ?_, ?_⟩,
    hmore⟩
  · exact absurd hlength (Int.ne_of_gt (hmore hcomma))
  · rw [hbuilt hnone, t.length_addresses, hreplicas]
  · have hindex : i < Discovery.replicas t.replicaCount := by omega
    rw [hbuilt hnone, Topology.getElem?_addresses hindex]
    delta Discovery.replicaAddress
    rfl
  · rw [hbuilt hnone]
    exact t.nodup_addresses
  · rw [hbuilt hnone, t.bootstrapServers_eq]

/-- Blanks at the ends of a name stay in the addresses. A negative count stands for one replica, whose
address falls apart at the comma in a name. -/
theorem servers_of_topology_blanks :
    let o : Options :=
      { brokerId := some 0, workloadName := some "\tw ", location := some "l",
        gvcName := some "g ", replicaCount := 2 }
    let o' : Options := { o with gvcName := some "g,h", replicaCount := -4 }
    ∃ s s' t', o.resolve (fun _ => none) = .ok s ∧ s.bootstrapServers.length = 2 ∧
      s.bootstrapServers[1]? = some "replica-1.\tw .l.g .cpln.local:9092" ∧
      o'.resolve (fun _ => none) = .ok s' ∧ s'.topology = some t' ∧ t'.replicaCount.toInt = 1 ∧
      1 < s'.bootstrapServers.length := by
  intro o o'
  let t : Topology := ⟨"\tw ", "l", "g ", none, 2, 9092⟩
  let t' : Topology := ⟨"\tw ", "l", "g,h", none, 1, 9092⟩
  let s : Settings := ⟨0, splitServers t.bootstrapServers, some t, o.saslChoice,
    .ofSeconds 10, 8080, "info"⟩
  let s' : Settings := ⟨0, splitServers t'.bootstrapServers, some t', o'.saslChoice,
    .ofSeconds 10, 8080, "info"⟩
  have hs : o.resolve (fun _ => none) = .ok s := by decide +kernel
  have hs' : o'.resolve (fun _ => none) = .ok s' := by decide +kernel
  obtain ⟨-, hlength, hplain, -⟩ := servers_of_topology (t := t) hs rfl
  obtain ⟨hcount, -, -, hmore⟩ := servers_of_topology (t := t') hs' rfl
  have hnone : ¬t.HasComma := by decide
  refine ⟨s, s', t', hs, ?_, ?_, hs', rfl, hcount, ?_⟩
  · exact Int.ofNat.inj (hlength.2 hnone)
  · exact ((hplain hnone).1 1 (by decide)).trans (congrArg some (by decide +kernel))
  · rw [hcount] at hmore
    exact Int.ofNat_lt.1 (hmore (by decide))

end Options

end BrokerWatch
