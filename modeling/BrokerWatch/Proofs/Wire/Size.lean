import BrokerWatch.Proofs.Wire.Verdict
import Mathlib.Algebra.BigOperators.Ring.List
import Mathlib.Algebra.Order.BigOperators.Group.List

/-!
# How much a response can hold

A response says how many values follow, on three levels, and up to `2^31 - 1` can be said each time.
Such a number brings no value that the bytes do not hold: every value that is read has bytes of its
own there. What a written form takes at least is added up from its parts, and the map of directories
keeps some of the results, so it takes no more than all of them do.
-/

namespace BrokerWatch.Wire

def textSize (s : String) : Nat :=
  (Text.Utf8.encode s).length

/-! ### Parts of a response -/

theorem TextWritten.length_eq {s : String} {bytes : List UInt8} (h : TextWritten s bytes) :
    bytes.length = 2 + textSize s := by
  obtain ⟨-, rfl⟩ := h
  rw [Field.text, List.length_append, Bytes.length_ofNat, textSize]

/-- A list takes four bytes and what its values take. -/
theorem ListWritten.size_le {α : Type} {written : α → List UInt8 → Prop} {size : α → Nat}
    (hsize : ∀ value part, written value part → size value ≤ part.length) {values : List α}
    {bytes : List UInt8} (h : ListWritten written values bytes) :
    4 + (values.map size).sum ≤ bytes.length := by
  obtain ⟨-, parts, hparts, rfl⟩ | ⟨rfl, length, -, rfl⟩ := h
  · rw [List.length_append, Bytes.length_ofNat]
    refine Nat.add_le_add_left ?_ 4
    induction hparts with
    | nil => simp
    | cons hwritten _ ih =>
        rw [List.map_cons, List.sum_cons, List.flatten_cons, List.length_append]
        exact Nat.add_le_add (hsize _ _ hwritten) ih
  · -- Nothing follows a negative length.
    simp

theorem HandshakeResponse.Written.size_le {r : HandshakeResponse} {bytes : List UInt8}
    (h : r.Written bytes) :
    6 + 2 * r.mechanisms.length + (r.mechanisms.map textSize).sum ≤ bytes.length := by
  obtain ⟨mechanisms, hmechanisms, rfl⟩ := h
  have hlist := hmechanisms.size_le fun s part hs => Nat.le_of_eq hs.length_eq.symm
  rw [List.sum_map_add, List.map_const', List.sum_replicate_nat] at hlist
  rw [List.length_append, Field.length_int16]
  omega

theorem PartitionResult.Written.length_eq {p : PartitionResult} {bytes : List UInt8}
    (h : p.Written bytes) : bytes.length = 21 := by
  obtain rfl := h
  simp [PartitionResult.bytes]

theorem TopicResult.Written.size_le {t : TopicResult} {bytes : List UInt8} (h : t.Written bytes) :
    21 * t.partitions.length ≤ bytes.length := by
  obtain ⟨name, partitions, -, hpartitions, rfl⟩ := h
  have hlist := hpartitions.size_le fun p part hp => Nat.le_of_eq hp.length_eq.symm
  rw [List.map_const', List.sum_replicate_nat] at hlist
  rw [List.length_append]
  omega

/-! ### Directories -/

/-- What a directory takes under its path at least: an error code, the path and the number of its
topics, and its placements. -/
def dirSize (path : String) (dir : Cluster.LogDir) : Nat :=
  8 + textSize path + 21 * dir.placements.length

theorem DirResult.Written.size_le {d : DirResult} {bytes : List UInt8} (h : d.Written bytes) :
    dirSize d.path d.logDir ≤ bytes.length := by
  obtain ⟨path, topics, hpath, htopics, rfl⟩ := h
  have hlist := htopics.size_le fun t part ht => ht.size_le
  have hplacements : d.logDir.placements.length = (d.topics.map (·.partitions.length)).sum := by
    simp [logDir, List.length_flatMap]
  rw [List.sum_map_mul_left, ← hplacements] at hlist
  rw [dirSize, List.length_append, List.length_append, Field.length_int16, hpath.length_eq]
  omega

/-- The directories that a response comes to take no more than all of its results. -/
theorem DescribeResponse.sum_dirSize_le (r : DescribeResponse) :
    (r.logDirs.entries.map fun entry => dirSize entry.1 entry.2).sum ≤
      (r.results.map fun d => dirSize d.path d.logDir).sum := by
  obtain ⟨kept, hperm, hsub⟩ :=
    SortedMap.entries_ofList_subperm (r.results.map fun d => (d.path, d.logDir))
  calc (r.logDirs.entries.map fun entry => dirSize entry.1 entry.2).sum
      = (kept.map fun entry => dirSize entry.1 entry.2).sum := (hperm.map _).sum_eq.symm
    _ ≤ ((r.results.map fun d => (d.path, d.logDir)).map fun entry =>
          dirSize entry.1 entry.2).sum := (hsub.map _).sum_le_sum fun _ _ => Nat.zero_le _
    _ = (r.results.map fun d => dirSize d.path d.logDir).sum := by rw [List.map_map]; rfl

theorem DescribeResponse.Written.size_le {r : DescribeResponse} {bytes : List UInt8}
    (h : r.Written bytes) :
    8 + (r.logDirs.entries.map fun entry => dirSize entry.1 entry.2).sum ≤ bytes.length := by
  obtain ⟨results, hresults, rfl⟩ := h
  have hlist := hresults.size_le fun d part hd => hd.size_le
  have hkept := r.sum_dirSize_le
  rw [List.length_append, Field.length_int32]
  omega

theorem sum_dirSize (dirs : Cluster.LogDirs) :
    (dirs.entries.map fun entry => dirSize entry.1 entry.2).sum =
      8 * dirs.entries.length + (dirs.keys.map textSize).sum +
        21 * (dirs.values.map (·.placements.length)).sum := by
  simp only [dirSize, SortedMap.keys, SortedMap.values, List.map_map, List.sum_map_add,
    List.map_const', List.sum_replicate_nat, List.sum_map_mul_left, Nat.mul_comm 8,
    Function.comp_def]

/-! ### What is decoded -/

/-- Whatever numbers of values a body declares, all that is decoded of it has its bytes there: a
directory at least eight and those of its path, a placement twenty-one, and a mechanism two and those
of its name. -/
theorem decoded_within (body : List UInt8) :
    (∀ dirs, DescribeResponse.decode body = .ok dirs →
      8 + 8 * dirs.entries.length + 21 * (dirs.values.map (·.placements.length)).sum +
        (dirs.keys.map textSize).sum ≤ body.length) ∧
    ∀ r, HandshakeResponse.decode body = .ok r →
      6 + 2 * r.mechanisms.length + (r.mechanisms.map textSize).sum ≤ body.length := by
  refine ⟨fun dirs h => ?_, fun r h => ?_⟩
  · obtain ⟨r, bytes, rest, hwritten, rfl, rfl⟩ := DescribeResponse.decode_eq_ok_iff.1 h
    have hsize := hwritten.size_le
    rw [sum_dirSize] at hsize
    rw [List.length_append]
    omega
  · obtain ⟨bytes, rest, hwritten, rfl⟩ := HandshakeResponse.reader_reads.decode_eq_ok_iff.1 h
    have hsize := hwritten.size_le
    rw [List.length_append]
    omega

/-- A path that is reported twice is one directory, with the placement of the second report. Of a
list of names no byte is left over. -/
theorem decoded_within_reported_twice :
    let described : DescribeResponse :=
      ⟨0, [⟨57, "/a", []⟩, ⟨0, "/a", [⟨"t", [⟨3, 512, 0, 1⟩]⟩]⟩]⟩
    let offered : HandshakeResponse := ⟨0, ["PLAIN"]⟩
    (∃ dirs, DescribeResponse.decode described.body = .ok dirs ∧
      dirs.entries = [("/a", ⟨"/a", none, [⟨"t", 3, 512, true⟩]⟩)] ∧
      8 + 8 * 1 + 21 * 1 + 2 ≤ described.body.length) ∧
    HandshakeResponse.decode offered.body = .ok offered ∧
      6 + 2 * 1 + 5 ≤ offered.body.length ∧ offered.body.length = 13 := by
  intro described offered
  have hdescribed : described.Written described.body :=
    DescribeResponse.written_body (by decide +kernel)
  have hdirs : DescribeResponse.decode described.body = .ok described.logDirs :=
    DescribeResponse.decode_eq_ok_iff.2
      ⟨described, _, [], hdescribed, (List.append_nil _).symm, rfl⟩
  have hoffered : HandshakeResponse.decode offered.body = .ok offered := by decide +kernel
  refine ⟨⟨described.logDirs, hdirs, by decide, ?_⟩, hoffered, ?_, by decide⟩
  · exact (decoded_within described.body).1 _ hdirs
  · exact (decoded_within offered.body).2 _ hoffered

/-- A number of results that the body does not hold is none that is read. -/
example : ∃ e, DescribeResponse.decode [0, 0, 0, 0, 127, 255, 255, 255] = .error e :=
  ⟨_, rfl⟩

end BrokerWatch.Wire
