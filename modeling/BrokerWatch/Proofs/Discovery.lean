import BrokerWatch.Discovery
import BrokerWatch.Proofs.Numeral
import BrokerWatch.Proofs.Text.Split

/-!
# What host names and links tell

Only the last hyphen of a host name counts, and only the last marker of a workload's link, so
whatever stands in front of these is free: hyphens and digits in the one, whole links in the other.
Two markers may share a slash, and then the later of them is the one that counts.
-/

namespace BrokerWatch.Discovery

/-! ### The broker's number -/

/-- A host name ends in a hyphen and the digits of a number, which may begin with zeros and may have
a plus sign in front of them. -/
def EndsIn (host : String) (n : Nat) : Prop :=
  ∃ front index, host.toList = front ++ '-' :: index ∧ '-' ∉ index ∧ Numeral.IsNumeralOf index n

theorem endsIn_iff {host : String} {n : Nat} :
    EndsIn host n ↔ ∃ front index, Text.splitLast '-' host.toList = some (front, index) ∧
      Numeral.IsNumeralOf index n := by
  simp only [EndsIn, Text.splitLast_eq_some_iff, and_assoc, and_left_comm]

theorem brokerIdOfHost_of_cut {host : String} {front index : List Char}
    (h : Text.splitLast '-' host.toList = some (front, index)) :
    brokerIdOfHost host =
      if index.isEmpty then .error (.trailingHyphen host)
      else (Numeral.int32 index).mapError (.badIndex host) := by
  rw [brokerIdOfHost, h]

theorem brokerIdOfHost_eq_ok_iff {host : String} {id : Int32} :
    brokerIdOfHost host = .ok id ↔ ∃ n : Nat, EndsIn host n ∧ n ≤ 2147483647 ∧ id.toInt = n := by
  simp only [endsIn_iff]
  cases hcut : Text.splitLast '-' host.toList with
  | none =>
      rw [brokerIdOfHost, hcut]
      exact iff_of_false (fun h => nomatch h) fun h => by simp at h
  | some cut =>
      obtain ⟨front, index⟩ := cut
      have hread : brokerIdOfHost host = .ok id ↔ Numeral.int32 index = .ok id := by
        rw [brokerIdOfHost_of_cut hcut]
        cases index with
        | nil => exact iff_of_false (fun h => nomatch h) fun h => nomatch h
        | cons c index => exact mapError_eq_ok_iff
      rw [hread, Numeral.int32_eq_ok_iff (Text.splitLast_eq_some_iff.1 hcut).1]
      simp

/-- What is wrong with a host name for which a fault is reported. -/
def IdentityError.Explains (host : String) : IdentityError → Prop
  | .noHyphen text => text = host ∧ '-' ∉ host.toList
  | .trailingHyphen text => text = host ∧ ∃ front, host.toList = front ++ ['-']
  | .badIndex text cause => text = host ∧ ∃ front index, host.toList = front ++ '-' :: index ∧
      '-' ∉ index ∧ index ≠ [] ∧ Numeral.int32 index = .error cause
  | .unset _ => False

theorem IdentityError.explains_of_error {host : String} {fault : IdentityError}
    (h : brokerIdOfHost host = .error fault) : fault.Explains host := by
  cases hcut : Text.splitLast '-' host.toList with
  | none =>
      rw [brokerIdOfHost, hcut] at h
      cases h
      exact ⟨rfl, Text.splitLast_eq_none_iff.1 hcut⟩
  | some cut =>
      obtain ⟨front, index⟩ := cut
      obtain ⟨hindex, hhost⟩ := Text.splitLast_eq_some_iff.1 hcut
      rw [brokerIdOfHost_of_cut hcut] at h
      cases index with
      | nil =>
          cases h
          exact ⟨rfl, front, hhost⟩
      | cons c index =>
          cases hnumber : Numeral.int32 (c :: index) with
          | ok id =>
              rw [hnumber] at h
              cases h
          | error cause =>
              rw [hnumber] at h
              cases h
              exact ⟨rfl, front, c :: index, hhost, hindex, List.cons_ne_nil c index, hnumber⟩

theorem brokerIdOfHost_eq_error_iff {host : String} {fault : IdentityError} :
    brokerIdOfHost host = .error fault ↔ fault.Explains host := by
  refine ⟨IdentityError.explains_of_error, fun h => ?_⟩
  cases fault with
  | noHyphen text =>
      obtain ⟨rfl, hnone⟩ := h
      rw [brokerIdOfHost, Text.splitLast_eq_none_iff.2 hnone]
  | trailingHyphen text =>
      obtain ⟨rfl, front, hhost⟩ := h
      rw [brokerIdOfHost_of_cut (Text.splitLast_eq_some_iff.2 ⟨List.not_mem_nil, hhost⟩)]
      rfl
  | badIndex text cause =>
      obtain ⟨rfl, front, index, hhost, hindex, hne, hnumber⟩ := h
      rw [brokerIdOfHost_of_cut (Text.splitLast_eq_some_iff.2 ⟨hindex, hhost⟩), hnumber,
        if_neg (by simpa using hne)]
      rfl
  | unset source => cases h

/-- A host name is refused exactly if it ends in no number that fits. -/
theorem notEndsIn_of_explains {host : String} {fault : IdentityError} (h : fault.Explains host)
    (n : Nat) (hn : n ≤ 2147483647) : ¬EndsIn host n := by
  intro hends
  have hread : brokerIdOfHost host = .ok (Int32.ofNat n) :=
    brokerIdOfHost_eq_ok_iff.2 ⟨n, hends, hn, Int32.toInt_ofNat_of_lt (by omega)⟩
  rw [brokerIdOfHost_eq_error_iff.2 h] at hread
  cases hread

/-- The decimal form of a number behind a hyphen, whatever stands in front of that. -/
theorem endsIn_repr (front : String) (n : Nat) : EndsIn (front ++ "-" ++ n.repr) n := by
  refine ⟨front.toList, n.repr.toList, ?_, Numeral.notMem_repr (by decide) n,
    .inl (Numeral.areDigitsOf_repr n)⟩
  simp [String.toList_append]

/-- A host name tells a broker's number exactly if it ends in a hyphen and that number, and the number
fits. Any other host name is refused with a fault of the broker's identity that says what is wrong with
it. So no number is negative, and every number that fits is read back from behind any text and a
hyphen. -/
theorem brokerId_of_host :
    (∀ host id, brokerIdOfHost host = .ok id ↔
      ∃ n : Nat, EndsIn host n ∧ n ≤ 2147483647 ∧ id.toInt = n) ∧
      (∀ host, (∀ n ≤ 2147483647, ¬EndsIn host n) →
        ∃ fault, brokerIdOfHost host = .error fault ∧
          fault.failure = .identity fault.message ∧ fault.Explains host) ∧
      (∀ host id, brokerIdOfHost host = .ok id → 0 ≤ id) ∧
      ∀ (front : String) (n : Nat), n ≤ 2147483647 →
        ∃ id, brokerIdOfHost (front ++ "-" ++ n.repr) = .ok id ∧ id.toInt = n := by
  refine ⟨fun host id => brokerIdOfHost_eq_ok_iff, fun host hnone => ?_, fun host id h => ?_,
    fun front n hn => ?_⟩
  · cases h : brokerIdOfHost host with
    | ok id =>
        obtain ⟨n, hends, hn, -⟩ := brokerIdOfHost_eq_ok_iff.1 h
        exact absurd hends (hnone n hn)
    | error fault => exact ⟨fault, rfl, rfl, IdentityError.explains_of_error h⟩
  · obtain ⟨n, -, -, hid⟩ := brokerIdOfHost_eq_ok_iff.1 h
    rw [Int32.le_iff_toInt_le, hid]
    exact Int.natCast_nonneg n
  · have hid : (Int32.ofNat n).toInt = n := Int32.toInt_ofNat_of_lt (by omega)
    exact ⟨Int32.ofNat n, brokerIdOfHost_eq_ok_iff.2 ⟨n, endsIn_repr front n, hn, hid⟩, hid⟩

/-- Zeros and a plus sign in front of the number, a number that is one too large, and the largest one
behind a text that ends in a number itself. -/
theorem brokerId_of_host_zeros :
    brokerIdOfHost "kafka-2-+007" = .ok 7 ∧
      (∃ fault, brokerIdOfHost "kafka-2147483648" = .error fault ∧
        fault.failure = .identity fault.message ∧ fault.Explains "kafka-2147483648") ∧
      ∃ id, brokerIdOfHost ("köln-3" ++ "-" ++ (2147483647).repr) = .ok id ∧
        id.toInt = 2147483647 := by
  obtain ⟨hread, hfault, -, hback⟩ := brokerId_of_host
  have hends : EndsIn "kafka-2-+007" 7 :=
    ⟨"kafka-2".toList, "+007".toList, rfl, by decide,
      .inr ⟨"007".toList, rfl, by decide, List.all_eq_true.1 rfl, rfl⟩⟩
  refine ⟨(hread _ 7).2 ⟨7, hends, by decide, rfl⟩, hfault _ fun n hn h => ?_,
    hback "köln-3" 2147483647 (Nat.le_refl _)⟩
  exact nomatch (hread _ (Int32.ofNat n)).2 ⟨n, h, hn, Int32.toInt_ofNat_of_lt (by omega)⟩

/-! ### The workload's name -/

theorem toList_marker : "/workload/".toList = workloadMarker := rfl

theorem toList_marker_tail : "workload/".toList = workloadMarker.tail := rfl

/-- The segment behind a marker of a link, where no marker begins behind the start of that one. The
segment ends where the link does or with a slash. -/
def HasLastSegment (link name : String) : Prop :=
  ∃ front back, link.toList = front ++ "/workload/".toList ++ name.toList ++ back ∧
    '/' ∉ name.toList ∧ (back = [] ∨ ∃ more, back = '/' :: more) ∧
    ¬"/workload/".toList <:+: "workload/".toList ++ name.toList ++ back

theorem hasLastSegment_iff {link name : String} :
    HasLastSegment link name ↔ ∃ rest, Text.afterLast workloadMarker link.toList = some rest ∧
      rest.takeWhile (· != '/') = name.toList := by
  have hmarker : workloadMarker ≠ [] := List.cons_ne_nil _ _
  simp only [HasLastSegment, toList_marker, toList_marker_tail, Text.afterLast_eq_some_iff hmarker,
    Text.takeWhile_ne_eq_iff]
  constructor
  · intro h
    obtain ⟨front, back, hlink, hname, hback, hlast⟩ := h
    rw [List.append_assoc] at hlink hlast
    exact ⟨name.toList ++ back, ⟨⟨front, hlink⟩, hlast⟩, hname, back, rfl, hback⟩
  · intro h
    obtain ⟨_, ⟨⟨front, hlink⟩, hlast⟩, hname, back, rfl, hback⟩ := h
    rw [← List.append_assoc] at hlink hlast
    exact ⟨front, back, hlink, hname, hback, hlast⟩

theorem workloadOfLink_of_cut {link : String} {rest : List Char}
    (h : Text.afterLast workloadMarker link.toList = some rest) :
    workloadOfLink link =
      if (rest.takeWhile (· != '/')).isEmpty then .error (.emptyWorkload link)
      else .ok (String.ofList (rest.takeWhile (· != '/'))) := by
  rw [workloadOfLink, h]

theorem workloadOfLink_eq_ok_iff {link name : String} :
    workloadOfLink link = .ok name ↔ name ≠ "" ∧ HasLastSegment link name := by
  rw [hasLastSegment_iff]
  cases hrest : Text.afterLast workloadMarker link.toList with
  | none =>
      rw [workloadOfLink, hrest]
      exact iff_of_false (fun h => nomatch h) fun h => by simp at h
  | some rest =>
      rw [workloadOfLink_of_cut hrest]
      constructor
      · intro h
        split at h
        · cases h
        · rename_i hne
          cases h
          exact ⟨by simpa using hne, rest, rfl, String.toList_ofList.symm⟩
      · intro h
        obtain ⟨hne, _, hsame, hname⟩ := h
        cases hsame
        rw [hname, if_neg (by simpa using hne), String.ofList_toList]

/-- What is wrong with a link for which a fault is reported. -/
def SourceError.Explains (link : String) : SourceError → Prop
  | .noWorkload text => text = link ∧ ¬"/workload/".toList <:+: link.toList
  | .emptyWorkload text => text = link ∧ HasLastSegment link ""
  | .emptyLocation _ => False
  | .unset _ => False

theorem SourceError.explains_of_error {link : String} {fault : SourceError}
    (h : workloadOfLink link = .error fault) : fault.Explains link := by
  cases hrest : Text.afterLast workloadMarker link.toList with
  | none =>
      rw [workloadOfLink, hrest] at h
      cases h
      exact ⟨rfl, Text.afterLast_eq_none_iff.1 hrest⟩
  | some rest =>
      rw [workloadOfLink_of_cut hrest] at h
      split at h
      · rename_i hempty
        cases h
        exact ⟨rfl, hasLastSegment_iff.2 ⟨rest, hrest, List.isEmpty_iff.1 hempty⟩⟩
      · cases h

theorem workloadOfLink_eq_error_iff {link : String} {fault : SourceError} :
    workloadOfLink link = .error fault ↔ fault.Explains link := by
  refine ⟨SourceError.explains_of_error, fun h => ?_⟩
  cases fault with
  | noWorkload text =>
      obtain ⟨rfl, hnone⟩ := h
      rw [toList_marker] at hnone
      rw [workloadOfLink, Text.afterLast_eq_none_iff.2 hnone]
  | emptyWorkload text =>
      obtain ⟨rfl, hsegment⟩ := h
      obtain ⟨rest, hrest, hname⟩ := hasLastSegment_iff.1 hsegment
      rw [workloadOfLink_of_cut hrest, hname]
      rfl
  | emptyLocation text => cases h
  | unset source => cases h

theorem notHasLastSegment_of_explains {link : String} {fault : SourceError}
    (h : fault.Explains link) (name : String) (hne : name ≠ "") : ¬HasLastSegment link name := by
  intro hsegment
  have hread := workloadOfLink_eq_ok_iff.2 ⟨hne, hsegment⟩
  rw [workloadOfLink_eq_error_iff.2 h] at hread
  cases hread

/-- A name without a slash brings no second marker with it. -/
theorem hasLastSegment_append (front : String) {name : String} (h : '/' ∉ name.toList) :
    HasLastSegment (front ++ "/workload/" ++ name) name := by
  refine ⟨front.toList, [], by simp only [String.toList_append, List.append_nil], h, .inl rfl, ?_⟩
  intro hmarker
  have hslashes := hmarker.sublist.count_le '/'
  rw [List.append_nil, List.count_append, List.count_eq_zero.2 h] at hslashes
  exact absurd hslashes (by decide)

/-- A link tells the name of a workload exactly if that is the segment behind its last marker and is
not empty. Any other link is refused with a fault of the discovery that says what is wrong with it. So
every name without a slash is read back from behind any text and a marker. -/
theorem workload_of_link :
    (∀ link name, workloadOfLink link = .ok name ↔ name ≠ "" ∧ HasLastSegment link name) ∧
      (∀ link, (∀ name, name ≠ "" → ¬HasLastSegment link name) →
        ∃ fault, workloadOfLink link = .error fault ∧
          fault.failure = .discovery fault.message ∧ fault.Explains link) ∧
      ∀ front name : String, name ≠ "" → '/' ∉ name.toList →
        workloadOfLink (front ++ "/workload/" ++ name) = .ok name := by
  refine ⟨fun link name => workloadOfLink_eq_ok_iff, fun link hnone => ?_,
    fun front name hne hname => ?_⟩
  · cases h : workloadOfLink link with
    | ok name =>
        obtain ⟨hne, hsegment⟩ := workloadOfLink_eq_ok_iff.1 h
        exact absurd hsegment (hnone name hne)
    | error fault => exact ⟨fault, rfl, rfl, SourceError.explains_of_error h⟩
  · exact workloadOfLink_eq_ok_iff.2 ⟨hne, hasLastSegment_append front hname⟩

/-- A name that spells the marker's own word, behind a marker that shares its slash with another one;
and a link that ends with its last marker. -/
theorem workload_of_link_workload :
    workloadOfLink "/workload/workload/workload" = .ok "workload" ∧
      ∃ fault, workloadOfLink "/workload/kafka/workload/" = .error fault ∧
        fault.failure = .discovery fault.message ∧
        fault.Explains "/workload/kafka/workload/" := by
  obtain ⟨hread, hfault, hback⟩ := workload_of_link
  refine ⟨hback "/workload" "workload" (by decide) (by decide), hfault _ fun name hne h => ?_⟩
  exact nomatch (hread _ name).2 ⟨hne, h⟩

/-! ### The location's name -/

/-- What stands behind the last slash of a link, or all of it where it has none. -/
def HasLastPart (link name : String) : Prop :=
  '/' ∉ name.toList ∧ (link = name ∨ ∃ front, link.toList = front ++ '/' :: name.toList)

theorem exists_hasLastPart (link : String) : ∃ name, HasLastPart link name := by
  cases hsplit : Text.splitLast '/' link.toList with
  | none => exact ⟨link, Text.splitLast_eq_none_iff.1 hsplit, .inl rfl⟩
  | some cut =>
      obtain ⟨hlast, hlink⟩ := Text.splitLast_eq_some_iff.1 hsplit
      refine ⟨String.ofList cut.2, ?_, .inr ⟨cut.1, ?_⟩⟩
      · rwa [String.toList_ofList]
      · rwa [String.toList_ofList]

theorem locationOfLink_of_hasLastPart {link name : String} (h : HasLastPart link name) :
    locationOfLink link =
      if name.toList.isEmpty then .error (.emptyLocation link) else .ok name := by
  obtain ⟨hname, rfl | ⟨front, hlink⟩⟩ := h
  · rw [locationOfLink, Text.splitLast_of_notMem hname, String.ofList_toList]
  · rw [locationOfLink, Text.splitLast_eq_some_iff.2 ⟨hname, hlink⟩]
    simp only [String.ofList_toList]

theorem locationOfLink_eq_ok_iff {link name : String} :
    locationOfLink link = .ok name ↔ name ≠ "" ∧ HasLastPart link name := by
  constructor
  · intro h
    obtain ⟨found, hfound⟩ := exists_hasLastPart link
    rw [locationOfLink_of_hasLastPart hfound] at h
    split at h
    · cases h
    · rename_i hne
      cases h
      exact ⟨by simpa using hne, hfound⟩
  · intro h
    obtain ⟨hne, hlast⟩ := h
    rw [locationOfLink_of_hasLastPart hlast, if_neg (by simpa using hne)]

theorem locationOfLink_eq_error_iff {link : String} {fault : SourceError} :
    locationOfLink link = .error fault ↔ HasLastPart link "" ∧ fault = .emptyLocation link := by
  constructor
  · intro h
    obtain ⟨found, hfound⟩ := exists_hasLastPart link
    rw [locationOfLink_of_hasLastPart hfound] at h
    split at h
    · rename_i hempty
      obtain rfl : found = "" := by simpa using hempty
      cases h
      exact ⟨hfound, rfl⟩
    · cases h
  · intro h
    obtain ⟨hlast, rfl⟩ := h
    rw [locationOfLink_of_hasLastPart hlast]
    rfl

end BrokerWatch.Discovery
