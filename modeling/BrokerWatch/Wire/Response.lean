import BrokerWatch.Cluster.LogDirs
import BrokerWatch.Wire.ErrorCode
import BrokerWatch.Wire.Field
import BrokerWatch.Wire.Reader

/-!
# Responses

The bodies of the three responses that the program asks brokers for, how a broker writes them, and
how they are read. Bytes behind a body are left alone.
-/

namespace BrokerWatch.Wire

/-! ### Agreeing on a mechanism -/

/-- The answer to a proposed mechanism. -/
structure HandshakeResponse where
  errorCode : Int16
  /-- The mechanisms that the broker supports. -/
  mechanisms : List String
  deriving DecidableEq, Repr

def HandshakeResponse.body (r : HandshakeResponse) : List UInt8 :=
  Field.int16 r.errorCode ++ Field.list Field.text r.mechanisms

def HandshakeResponse.reader : Reader HandshakeResponse := do
  let errorCode ← Reader.int16 "handshake error_code"
  let mechanisms ← Reader.list "handshake mechanisms" (Reader.text "handshake mechanism")
  return { errorCode, mechanisms }

def HandshakeResponse.decode : List UInt8 → Except ReadError HandshakeResponse :=
  HandshakeResponse.reader.decode

/-! ### Passing a message -/

/-- The answer to a message of the mechanism. -/
structure AuthenticateResponse where
  errorCode : Int16
  /-- What the broker says about an error. -/
  message : Option String
  /-- The mechanism's next message. -/
  payload : List UInt8
  deriving DecidableEq, Repr

def AuthenticateResponse.body (r : AuthenticateResponse) : List UInt8 :=
  Field.int16 r.errorCode ++ Field.nullableText r.message ++ Field.block r.payload

def AuthenticateResponse.reader : Reader AuthenticateResponse := do
  let errorCode ← Reader.int16 "authenticate error_code"
  let message ← Reader.nullableText "authenticate error_message"
  let payload ← Reader.block "authenticate auth_bytes"
  return { errorCode, message, payload }

def AuthenticateResponse.decode : List UInt8 → Except ReadError AuthenticateResponse :=
  AuthenticateResponse.reader.decode

/-! ### Describing log directories -/

structure PartitionResult where
  index : Int32
  size : Int64
  lag : Int64
  /-- Any byte but zero marks a partition that is still being moved. -/
  future : UInt8
  deriving DecidableEq, Repr

structure TopicResult where
  name : String
  partitions : List PartitionResult
  deriving DecidableEq, Repr

structure DirResult where
  errorCode : Int16
  path : String
  topics : List TopicResult
  deriving DecidableEq, Repr

/-- The answer to the question for the directories. -/
structure DescribeResponse where
  throttle : Int32
  results : List DirResult
  deriving DecidableEq, Repr

def PartitionResult.bytes (p : PartitionResult) : List UInt8 :=
  Field.int32 p.index ++ Field.int64 p.size ++ Field.int64 p.lag ++ [p.future]

def TopicResult.bytes (t : TopicResult) : List UInt8 :=
  Field.text t.name ++ Field.list PartitionResult.bytes t.partitions

def DirResult.bytes (d : DirResult) : List UInt8 :=
  Field.int16 d.errorCode ++ Field.text d.path ++ Field.list TopicResult.bytes d.topics

def DescribeResponse.body (r : DescribeResponse) : List UInt8 :=
  Field.int32 r.throttle ++ Field.list DirResult.bytes r.results

def PartitionResult.reader : Reader PartitionResult := do
  let index ← Reader.int32 "partition_index"
  let size ← Reader.int64 "partition_size"
  let lag ← Reader.int64 "offset_lag"
  let future ← Reader.byte "is_future_key"
  return { index, size, lag, future }

def TopicResult.reader : Reader TopicResult := do
  let name ← Reader.text "topic name"
  let partitions ← Reader.list "partitions" PartitionResult.reader
  return { name, partitions }

def DirResult.reader : Reader DirResult := do
  let errorCode ← Reader.int16 "log dir error_code"
  let path ← Reader.text "log_dir"
  let topics ← Reader.list "topics" TopicResult.reader
  return { errorCode, path, topics }

def DescribeResponse.reader : Reader DescribeResponse := do
  let throttle ← Reader.int32 "throttle_time_ms"
  let results ← Reader.list "results" DirResult.reader
  return { throttle, results }

/-- A partition's placement under its topic. -/
def PartitionResult.placement (p : PartitionResult) (topic : String) : Cluster.Placement :=
  ⟨topic, p.index, p.size, p.future != 0⟩

def DirResult.logDir (d : DirResult) : Cluster.LogDir where
  path := d.path
  error := ErrorCode.error? d.errorCode
  placements := d.topics.flatMap fun t => t.partitions.map (·.placement t.name)

/-- The directories of an answer by their paths; a later result replaces an earlier one. -/
def DescribeResponse.logDirs (r : DescribeResponse) : Cluster.LogDirs :=
  .ofList (r.results.map fun d => (d.path, d.logDir))

/-- The directories of the answer at the front of a body. -/
def DescribeResponse.decode (body : List UInt8) : Except ReadError Cluster.LogDirs :=
  (DescribeResponse.reader.decode body).map (·.logDirs)

end BrokerWatch.Wire
