import BrokerWatch.Proofs.SortedMap
import BrokerWatch.Proofs.Wire.Reading
import BrokerWatch.Wire.Response
import Mathlib.Data.List.Forall2

/-!
# What responses are read as

The written forms of the three responses: what a broker writes, with any negative length in the place
of what is not there. The readers read exactly these, so a response is read back from each of its
forms, whatever follows it, and the directories of an answer hold at each path the last result that
was reported for it.
-/

namespace BrokerWatch.Wire

/-! ### Written forms -/

def HandshakeResponse.Written (r : HandshakeResponse) (bytes : List UInt8) : Prop :=
  ∃ mechanisms, ListWritten TextWritten r.mechanisms mechanisms ∧
    bytes = Field.int16 r.errorCode ++ mechanisms

def AuthenticateResponse.Written (r : AuthenticateResponse) (bytes : List UInt8) : Prop :=
  ∃ message payload, NullableTextWritten r.message message ∧ BlockWritten r.payload payload ∧
    bytes = Field.int16 r.errorCode ++ message ++ payload

def PartitionResult.Written (p : PartitionResult) (bytes : List UInt8) : Prop :=
  bytes = p.bytes

def TopicResult.Written (t : TopicResult) (bytes : List UInt8) : Prop :=
  ∃ name partitions, TextWritten t.name name ∧
    ListWritten PartitionResult.Written t.partitions partitions ∧ bytes = name ++ partitions

def DirResult.Written (d : DirResult) (bytes : List UInt8) : Prop :=
  ∃ path topics, TextWritten d.path path ∧ ListWritten TopicResult.Written d.topics topics ∧
    bytes = Field.int16 d.errorCode ++ path ++ topics

def DescribeResponse.Written (r : DescribeResponse) (bytes : List UInt8) : Prop :=
  ∃ results, ListWritten DirResult.Written r.results results ∧
    bytes = Field.int32 r.throttle ++ results

/-! ### The readers read the written forms -/

theorem HandshakeResponse.reader_reads :
    Reads HandshakeResponse.reader HandshakeResponse.Written := by
  refine ((Reader.int16_reads _).bind fun errorCode =>
    (Reader.list_reads _ (Reader.text_reads _)).map (HandshakeResponse.mk errorCode)).congr
      fun r bytes => ?_
  constructor
  · intro h
    obtain ⟨errorCode, _, back, rfl, ⟨mechanisms, hback, rfl⟩, rfl⟩ := h
    exact ⟨back, hback, rfl⟩
  · intro h
    obtain ⟨back, hback, rfl⟩ := h
    exact ⟨_, _, back, rfl, ⟨_, hback, rfl⟩, rfl⟩

theorem AuthenticateResponse.reader_reads :
    Reads AuthenticateResponse.reader AuthenticateResponse.Written := by
  refine ((Reader.int16_reads _).bind fun errorCode =>
    (Reader.nullableText_reads _).bind fun message =>
      (Reader.block_reads _).map (AuthenticateResponse.mk errorCode message)).congr
        fun r bytes => ?_
  constructor
  · intro h
    obtain ⟨_, _, _, rfl, ⟨_, message, payload, hmessage, ⟨_, hpayload, rfl⟩, rfl⟩, rfl⟩ := h
    exact ⟨message, payload, hmessage, hpayload, (List.append_assoc ..).symm⟩
  · intro h
    obtain ⟨message, payload, hmessage, hpayload, rfl⟩ := h
    exact ⟨_, _, _, rfl, ⟨_, message, payload, hmessage, ⟨_, hpayload, rfl⟩, rfl⟩,
      List.append_assoc ..⟩

theorem PartitionResult.reader_reads :
    Reads PartitionResult.reader PartitionResult.Written := by
  refine ((Reader.int32_reads _).bind fun index => (Reader.int64_reads _).bind fun size =>
    (Reader.int64_reads _).bind fun lag =>
      (Reader.byte_reads _).map (PartitionResult.mk index size lag)).congr fun p bytes => ?_
  have hfuture : Bytes.ofNat 1 p.future.toNat = [p.future] := by simp [Bytes.ofNat]
  constructor
  · intro h
    obtain ⟨_, _, _, rfl, ⟨_, _, _, rfl, ⟨_, _, _, rfl, ⟨_, rfl, rfl⟩, rfl⟩, rfl⟩, rfl⟩ := h
    rw [hfuture]
    simp [PartitionResult.Written, PartitionResult.bytes]
  · intro h
    subst h
    refine ⟨_, _, _, rfl, ⟨_, _, _, rfl, ⟨_, _, _, rfl, ⟨_, rfl, rfl⟩, rfl⟩, rfl⟩, ?_⟩
    rw [hfuture]
    simp [PartitionResult.bytes]

theorem TopicResult.reader_reads : Reads TopicResult.reader TopicResult.Written := by
  refine ((Reader.text_reads _).bind fun name =>
    (Reader.list_reads _ PartitionResult.reader_reads).map (TopicResult.mk name)).congr
      fun t bytes => ?_
  constructor
  · intro h
    obtain ⟨_, name, partitions, hname, ⟨_, hpartitions, rfl⟩, rfl⟩ := h
    exact ⟨name, partitions, hname, hpartitions, rfl⟩
  · intro h
    obtain ⟨name, partitions, hname, hpartitions, rfl⟩ := h
    exact ⟨_, name, partitions, hname, ⟨_, hpartitions, rfl⟩, rfl⟩

theorem DirResult.reader_reads : Reads DirResult.reader DirResult.Written := by
  refine ((Reader.int16_reads _).bind fun errorCode => (Reader.text_reads _).bind fun path =>
    (Reader.list_reads _ TopicResult.reader_reads).map (DirResult.mk errorCode path)).congr
      fun d bytes => ?_
  constructor
  · intro h
    obtain ⟨_, _, _, rfl, ⟨_, path, topics, hpath, ⟨_, htopics, rfl⟩, rfl⟩, rfl⟩ := h
    exact ⟨path, topics, hpath, htopics, (List.append_assoc ..).symm⟩
  · intro h
    obtain ⟨path, topics, hpath, htopics, rfl⟩ := h
    exact ⟨_, _, _, rfl, ⟨_, path, topics, hpath, ⟨_, htopics, rfl⟩, rfl⟩, List.append_assoc ..⟩

theorem DescribeResponse.reader_reads :
    Reads DescribeResponse.reader DescribeResponse.Written := by
  refine ((Reader.int32_reads _).bind fun throttle =>
    (Reader.list_reads _ DirResult.reader_reads).map (DescribeResponse.mk throttle)).congr
      fun r bytes => ?_
  constructor
  · intro h
    obtain ⟨_, _, results, rfl, ⟨_, hresults, rfl⟩, rfl⟩ := h
    exact ⟨results, hresults, rfl⟩
  · intro h
    obtain ⟨results, hresults, rfl⟩ := h
    exact ⟨_, _, results, rfl, ⟨_, hresults, rfl⟩, rfl⟩

/-! ### What a broker writes is a written form -/

/-- Whether a text is short enough to be written behind its length. -/
def TextFits (s : String) : Prop :=
  (Text.Utf8.encode s).length ≤ 32767

instance (s : String) : Decidable (TextFits s) :=
  inferInstanceAs (Decidable (_ ≤ _))

def HandshakeResponse.Fits (r : HandshakeResponse) : Prop :=
  r.mechanisms.length < 2 ^ 31 ∧ ∀ mechanism ∈ r.mechanisms, TextFits mechanism

def AuthenticateResponse.Fits (r : AuthenticateResponse) : Prop :=
  (∀ message, r.message = some message → TextFits message) ∧ r.payload.length < 2 ^ 31

def TopicResult.Fits (t : TopicResult) : Prop :=
  TextFits t.name ∧ t.partitions.length < 2 ^ 31

instance (t : TopicResult) : Decidable t.Fits :=
  inferInstanceAs (Decidable (_ ∧ _))

def DirResult.Fits (d : DirResult) : Prop :=
  TextFits d.path ∧ d.topics.length < 2 ^ 31 ∧ ∀ topic ∈ d.topics, topic.Fits

instance (d : DirResult) : Decidable d.Fits :=
  inferInstanceAs (Decidable (_ ∧ _ ∧ _))

def DescribeResponse.Fits (r : DescribeResponse) : Prop :=
  r.results.length < 2 ^ 31 ∧ ∀ result ∈ r.results, result.Fits

instance (r : DescribeResponse) : Decidable r.Fits :=
  inferInstanceAs (Decidable (_ ∧ _))

theorem textWritten_text {s : String} (h : TextFits s) : TextWritten s (Field.text s) :=
  ⟨Nat.lt_succ_of_le h, rfl⟩

theorem listWritten_list {α : Type} {written : α → List UInt8 → Prop} {item : α → List UInt8}
    {values : List α} (hlt : values.length < 2 ^ 31)
    (h : ∀ value ∈ values, written value (item value)) :
    ListWritten written values (Field.list item values) := by
  refine .inl ⟨hlt, values.map item, ?_, ?_⟩
  · rw [List.forall₂_map_right_iff]
    exact List.forall₂_same.2 h
  · rw [Field.list, List.flatMap]

theorem HandshakeResponse.written_body {r : HandshakeResponse} (h : r.Fits) :
    r.Written r.body :=
  ⟨_, listWritten_list h.1 fun mechanism hm => textWritten_text (h.2 mechanism hm), rfl⟩

theorem AuthenticateResponse.written_body {r : AuthenticateResponse} (h : r.Fits) :
    r.Written r.body := by
  refine ⟨Field.nullableText r.message, _, ?_, .inl ⟨h.2, rfl⟩, rfl⟩
  cases hm : r.message with
  | none => exact ⟨-1, by decide, rfl⟩
  | some message => exact textWritten_text (h.1 message hm)

theorem TopicResult.written_bytes {t : TopicResult} (h : t.Fits) : t.Written t.bytes :=
  ⟨_, _, textWritten_text h.1, listWritten_list h.2 fun _ _ => rfl, rfl⟩

theorem DirResult.written_bytes {d : DirResult} (h : d.Fits) : d.Written d.bytes :=
  ⟨_, _, textWritten_text h.1,
    listWritten_list h.2.1 fun topic ht => TopicResult.written_bytes (h.2.2 topic ht), rfl⟩

theorem DescribeResponse.written_body {r : DescribeResponse} (h : r.Fits) :
    r.Written r.body :=
  ⟨_, listWritten_list h.1 fun result hr => DirResult.written_bytes (h.2 result hr), rfl⟩

/-! ### The directories of an answer -/

/-- At each path stands the last result that was reported for it. -/
theorem DescribeResponse.get?_logDirs (r : DescribeResponse) (path : String) :
    r.logDirs.get? path = (r.results.reverse.find? (·.path == path)).map (·.logDir) := by
  rw [logDirs, SortedMap.get?_ofList, ← List.map_reverse, List.find?_map, Option.map_map]
  rfl

theorem DescribeResponse.mem_keys_logDirs (r : DescribeResponse) (path : String) :
    path ∈ r.logDirs.keys ↔ ∃ result ∈ r.results, result.path = path := by
  rw [SortedMap.mem_keys_iff, get?_logDirs]
  simp

/-- A response is read back from each of its written forms, whatever follows it: what a broker writes
of a response whose lengths fit is such a form, and so is the same with any negative length in the
place of a message, a payload or a list that is not there. Of log directories, each path that occurs
keeps the last of its results. -/
theorem decode_written :
    (∀ r : HandshakeResponse, (r.Fits → r.Written r.body) ∧
      ∀ bytes rest, r.Written bytes → HandshakeResponse.decode (bytes ++ rest) = .ok r) ∧
    (∀ r : AuthenticateResponse, (r.Fits → r.Written r.body) ∧
      ∀ bytes rest, r.Written bytes → AuthenticateResponse.decode (bytes ++ rest) = .ok r) ∧
    (∀ r : DescribeResponse, (r.Fits → r.Written r.body) ∧
      ∀ bytes rest, r.Written bytes →
        ∃ dirs, DescribeResponse.decode (bytes ++ rest) = .ok dirs ∧
          (∀ path, path ∈ dirs.keys ↔ ∃ result ∈ r.results, result.path = path) ∧
          ∀ path, dirs.get? path =
            (r.results.reverse.find? (·.path == path)).map fun (result : DirResult) => (
              { path := result.path
                error :=
                  if result.errorCode = 0 then none
                  else some (ErrorCode.name result.errorCode)
                placements :=
                  result.topics.flatMap fun (topic : TopicResult) =>
                    topic.partitions.map fun (p : PartitionResult) =>
                      ⟨topic.name, p.index, p.size, p.future != 0⟩ } : Cluster.LogDir)) := by
  refine ⟨fun r => ⟨HandshakeResponse.written_body, fun bytes rest h => ?_⟩,
    fun r => ⟨AuthenticateResponse.written_body, fun bytes rest h => ?_⟩,
    fun r => ⟨DescribeResponse.written_body, fun bytes rest h => ?_⟩⟩
  · exact HandshakeResponse.reader_reads.decode_append h rest
  · exact AuthenticateResponse.reader_reads.decode_append h rest
  · refine ⟨r.logDirs, ?_, r.mem_keys_logDirs, r.get?_logDirs⟩
    rw [DescribeResponse.decode, DescribeResponse.reader_reads.decode_append h rest]
    rfl

/-- A directory that was first reported as failing, then with a partition that is being moved. -/
theorem decode_written_reported_twice :
    DescribeResponse.Fits ⟨0, [⟨57, "/k", []⟩, ⟨0, "/k", [⟨"orders", [⟨3, 512, 0, 1⟩]⟩]⟩]⟩ ∧
      ∃ dirs, DescribeResponse.decode (DescribeResponse.body
          ⟨0, [⟨57, "/k", []⟩, ⟨0, "/k", [⟨"orders", [⟨3, 512, 0, 1⟩]⟩]⟩]⟩ ++ [255]) = .ok dirs ∧
        dirs.get? "/k" = some ⟨"/k", none, [⟨"orders", 3, 512, true⟩]⟩ := by
  have hfits : DescribeResponse.Fits
      ⟨0, [⟨57, "/k", []⟩, ⟨0, "/k", [⟨"orders", [⟨3, 512, 0, 1⟩]⟩]⟩]⟩ := by
    decide +kernel
  obtain ⟨hwritten, hread⟩ := decode_written.2.2 _
  obtain ⟨dirs, hdecode, -, hget⟩ := hread _ [255] (hwritten hfits)
  refine ⟨hfits, dirs, hdecode, ?_⟩
  rw [hget]
  decide

end BrokerWatch.Wire
