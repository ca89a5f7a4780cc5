/-!
# Memory in use

What a container uses of its memory. Of the bytes in use, those of files that were not touched lately
can be taken back at any time; the rest is the working set. A container without a limit has no ratio
to it, which counts as zero.
-/

namespace BrokerWatch.Memory

/-- The bytes that a container uses, the bytes that it may use, and how close it is to that. -/
structure Usage where
  total : UInt64
  /-- The most that may be used; zero if there is no limit. -/
  limit : UInt64
  /-- What is held in memory and cannot be taken back. -/
  resident : UInt64
  /-- What is held of files that were not touched lately. -/
  inactiveFile : UInt64
  /-- What is in use and not of untouched files. -/
  workingSet : UInt64
  /-- How close the working set is to the limit. -/
  oomRatio : Float
  /-- How close the container would be to the limit if all were taken back that can be. -/
  oomFloorRatio : Float

/-- A part of a limit, zero if there is none. -/
def ofLimit (limit part : UInt64) : Float :=
  if limit = 0 then 0 else part.toFloat / limit.toFloat

/-- What is in use once what can be taken back at any time is left out. -/
def workingSet (total inactiveFile : UInt64) : UInt64 :=
  if inactiveFile ≤ total then total - inactiveFile else 0

/-- The figures that follow from what is read. -/
def Usage.derive (total limit resident inactiveFile : UInt64) : Usage where
  total
  limit
  resident
  inactiveFile
  workingSet := Memory.workingSet total inactiveFile
  oomRatio := ofLimit limit (Memory.workingSet total inactiveFile)
  oomFloorRatio := ofLimit limit resident

end BrokerWatch.Memory
