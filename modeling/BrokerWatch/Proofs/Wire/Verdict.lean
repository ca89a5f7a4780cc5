import BrokerWatch.Proofs.Cluster.Verdicts
import BrokerWatch.Proofs.Results
import BrokerWatch.Proofs.Wire.Responses

/-!
# What becomes of a failing directory

Between a response and the verdict on its directories stands a map by their paths. A result that a
later one with the same path replaces is lost there, with the error and the partitions that it
reports, and no other is. So directories are judged healthy exactly if no result that stands reports
a fault, and a fault goes unnoticed exactly if every result with a fault is replaced.
-/

namespace BrokerWatch.Wire

open Cluster

/-- A result that reports no fault: neither an error nor a partition that is still being moved. -/
def DirResult.Fine (d : DirResult) : Prop :=
  d.errorCode = 0 ∧ ∀ topic ∈ d.topics, ∀ p ∈ topic.partitions, p.future = 0

/-- The directory of a result is healthy exactly if the result reports no fault. -/
theorem DirResult.isHealthy_logDir (d : DirResult) : d.logDir.isHealthy ↔ d.Fine := by
  have herror : ErrorCode.error? d.errorCode = none ↔ d.errorCode = 0 := by
    simp [ErrorCode.error?]
  simp only [LogDir.isHealthy, logDir, Fine, Bool.and_eq_true, Option.isNone_iff_eq_none, herror,
    Bool.not_eq_true', List.any_eq_false, List.mem_flatMap, List.mem_map]
  refine and_congr_right fun _ => ⟨fun h topic htopic p hp => ?_, fun h placement hplacement => ?_⟩
  · simpa [PartitionResult.placement] using h _ ⟨topic, htopic, p, hp, rfl⟩
  · obtain ⟨topic, htopic, p, hp, rfl⟩ := hplacement
    simp [PartitionResult.placement, h topic htopic p hp]

namespace DescribeResponse

/-- A result stands unless a later one has its path. -/
def Stands (r : DescribeResponse) (result : DirResult) : Prop :=
  ∃ before after, r.results = before ++ result :: after ∧ ∀ later ∈ after, later.path ≠ result.path

theorem Stands.mem {r : DescribeResponse} {result : DirResult} (h : r.Stands result) :
    result ∈ r.results := by
  obtain ⟨before, after, hsplit, -⟩ := h
  simp [hsplit]

/-- Where no path occurs twice, every result stands. -/
theorem stands_of_nodup {r : DescribeResponse} (h : (r.results.map (·.path)).Nodup)
    {result : DirResult} (hmem : result ∈ r.results) : r.Stands result := by
  obtain ⟨before, after, hsplit⟩ := List.append_of_mem hmem
  refine ⟨before, after, hsplit, fun later hlater hsame => ?_⟩
  rw [hsplit, List.map_append, List.map_cons] at h
  have htail := (List.nodup_append.1 h).2.1
  exact (List.nodup_cons.1 htail).1 (List.mem_map.2 ⟨later, hlater, hsame⟩)

/-- The result that stands for a path is the last one with it. -/
theorem find?_reverse_eq_some_iff (r : DescribeResponse) (path : String) (result : DirResult) :
    r.results.reverse.find? (·.path == path) = some result ↔
      result.path = path ∧ r.Stands result := by
  rw [List.find?_eq_some_iff_append, beq_iff_eq]
  refine and_congr_right fun hpath => ⟨fun h => ?_, fun h => ?_⟩
  · obtain ⟨after, before, hsplit, hafter⟩ := h
    refine ⟨before.reverse, after.reverse, ?_, fun later hlater => ?_⟩
    · rw [← List.reverse_reverse r.results, hsplit]
      simp
    · simpa [hpath] using hafter later (List.mem_reverse.1 hlater)
  · obtain ⟨before, after, hsplit, hafter⟩ := h
    refine ⟨after.reverse, before.reverse, by simp [hsplit], fun later hlater => ?_⟩
    simpa [hpath] using hafter later (List.mem_reverse.1 hlater)

/-- The entries of the map are the directories of the results that stand. -/
theorem mem_entries_logDirs (r : DescribeResponse) (path : String) (dir : LogDir) :
    (path, dir) ∈ r.logDirs.entries ↔
      ∃ result, r.Stands result ∧ result.path = path ∧ result.logDir = dir := by
  rw [SortedMap.mem_entries_iff, get?_logDirs, Option.map_eq_some_iff]
  simp only [find?_reverse_eq_some_iff]
  refine exists_congr fun result => ⟨fun h => ?_, fun h => ?_⟩
  · exact ⟨h.1.2, h.1.1, h.2⟩
  · exact ⟨⟨h.2.1, h.1⟩, h.2.2⟩

theorem isHealthy_scan_logDirs (r : DescribeResponse) :
    (Findings.scan r.logDirs).isHealthy ↔ ∀ result, r.Stands result → result.Fine := by
  rw [Findings.isHealthy_scan]
  constructor
  · intro h result hstands
    exact result.isHealthy_logDir.1
      (h _ ((r.mem_entries_logDirs _ _).2 ⟨result, hstands, rfl, rfl⟩))
  · intro h entry hentry
    obtain ⟨result, hstands, -, hdir⟩ := (r.mem_entries_logDirs _ _).1 hentry
    rw [← hdir]
    exact result.isHealthy_logDir.2 (h result hstands)

theorem decode_eq_ok_iff {body : List UInt8} {dirs : LogDirs} :
    decode body = .ok dirs ↔
      ∃ r : DescribeResponse, ∃ bytes rest, r.Written bytes ∧ body = bytes ++ rest ∧
        r.logDirs = dirs := by
  rw [decode, map_eq_ok_iff]
  simp only [reader_reads.decode_eq_ok_iff]
  constructor
  · intro h
    obtain ⟨r, ⟨bytes, rest, hbytes, hbody⟩, hdirs⟩ := h
    exact ⟨r, bytes, rest, hbytes, hbody, hdirs⟩
  · intro h
    obtain ⟨r, bytes, rest, hbytes, hbody, hdirs⟩ := h
    exact ⟨r, ⟨bytes, rest, hbytes, hbody⟩, hdirs⟩

/-- A body that begins with no response is refused. Of any other, the directories are judged healthy
exactly if no result that stands reports a fault. That is to say that no result reports one, unless
results report some and each of those is replaced, which needs a path that occurs twice. -/
theorem isHealthy_scan_decoded (body : List UInt8) :
    ((∃ e, decode body = .error e) ∧
        ∀ (r : DescribeResponse) bytes rest, r.Written bytes → body ≠ bytes ++ rest) ∨
      ∃ dirs, ∃ r : DescribeResponse, ∃ bytes rest, decode body = .ok dirs ∧ r.Written bytes ∧
        body = bytes ++ rest ∧
        ((Findings.scan dirs).isHealthy ↔ ∀ result, r.Stands result → result.Fine) ∧
        (((Findings.scan dirs).isHealthy ↔ ∀ result ∈ r.results, result.Fine) ↔
          ((∃ result ∈ r.results, ¬result.Fine) → ∃ result, r.Stands result ∧ ¬result.Fine)) ∧
        ((r.results.map (·.path)).Nodup →
          ((Findings.scan dirs).isHealthy ↔ ∀ result ∈ r.results, result.Fine)) := by
  cases hdecode : decode body with
  | error e =>
      refine .inl ⟨⟨e, rfl⟩, fun r bytes rest hbytes hbody => ?_⟩
      rw [decode_eq_ok_iff.2 ⟨r, bytes, rest, hbytes, hbody, rfl⟩] at hdecode
      cases hdecode
  | ok dirs =>
      obtain ⟨r, bytes, rest, hbytes, hbody, rfl⟩ := decode_eq_ok_iff.1 hdecode
      have hverdict := r.isHealthy_scan_logDirs
      -- The verdict never blames directories of which all results are fine.
      have hsound : (∀ result ∈ r.results, result.Fine) → (Findings.scan r.logDirs).isHealthy :=
        fun h => hverdict.2 fun result hstands => h result hstands.mem
      refine .inr ⟨r.logDirs, r, bytes, rest, rfl, hbytes, hbody, hverdict, ?_, fun hnodup => ?_⟩
      · constructor
        · intro h hfault
          by_contra hnone
          push Not at hnone
          obtain ⟨result, hmem, hbad⟩ := hfault
          exact hbad (h.1 (hverdict.2 hnone) result hmem)
        · intro h
          refine ⟨fun hhealthy => ?_, hsound⟩
          by_contra hfault
          push Not at hfault
          obtain ⟨result, hstands, hbad⟩ := h hfault
          exact hbad (hverdict.1 hhealthy result hstands)
      · refine ⟨fun hhealthy result hmem => ?_, hsound⟩
        exact hverdict.1 hhealthy result (stands_of_nodup hnodup hmem)

/-- A directory is reported as not found, then once more without a fault: the verdict is that
nothing is wrong. -/
theorem isHealthy_scan_decoded_replaced :
    let r : DescribeResponse := ⟨0, [⟨57, "/a", []⟩, ⟨0, "/a", []⟩]⟩
    let body : List UInt8 := [0, 0, 0, 0, 0, 0, 0, 2, 0, 57, 0, 2, 47, 97, 0, 0, 0, 0,
      0, 0, 0, 2, 47, 97, 0, 0, 0, 0]
    r.Written body ∧ (∃ result ∈ r.results, ¬result.Fine) ∧
      ∃ dirs, decode body = .ok dirs ∧ (Findings.scan dirs).isHealthy := by
  intro r body
  have hwritten : r.Written body := by
    have hfits : r.Fits := by decide +kernel
    have hbody : r.body = body := by decide
    exact hbody ▸ written_body hfits
  refine ⟨hwritten, ⟨⟨57, "/a", []⟩, by simp [r], fun h => absurd h.1 (by decide)⟩,
    r.logDirs, ?_, ?_⟩
  · exact decode_eq_ok_iff.2 ⟨r, body, [], hwritten, (List.append_nil body).symm, rfl⟩
  · decide

end DescribeResponse

end BrokerWatch.Wire
