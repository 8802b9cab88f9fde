import Songbook.CommandLine
import Std.Time.DateTime.Timestamp

/-!
# The program

Reads the arguments, the environment, the clock and the song file, and prints what the run gives.
-/

open Songbook

/-- Read a song file. -/
def readSongFile (path : String) : IO (Except ReadFailure String) := do
  try
    let bytes ← IO.FS.readBinFile path
    match String.fromUTF8? bytes with
    | some text => return .ok text
    | none => return .error .notUtf8
  catch
    | .noFileOrDirectory .. => return .error .notFound
    | error => return .error (.other (toString error))

/-- The seconds since 1970. -/
def readClock : IO Binary64 := do
  let now ← Std.Time.Timestamp.now
  return Binary64.ofRat false ((now.toNanosecondsSinceUnixEpoch.val : Rat) / 1000000000)

/-- Run the tool on the arguments of the process. -/
def main (arguments : List String) : IO UInt32 := do
  let environment : Environment := {
    home := ← IO.getEnv "HOME"
    cacheCapacity := ← IO.getEnv "SONGPAT_CACHE_CAPACITY"
    segmentLimit := ← IO.getEnv "SONGPAT_PATH_SEGMENT_LIMIT"
    logLevel := ← IO.getEnv "SONGPAT_LOG_LEVEL" }
  let path := match CommandLine.Arguments.read arguments with
    | .ok request => request.command.songsPath?
    | .error _ => none
  let content ← match path with
    | some path => readSongFile path
    | none => pure (.error .notFound)
  let now ← readClock
  let outcome := CommandLine.run arguments environment now fun _ => content
  IO.print outcome.output
  IO.eprint outcome.complaint
  return UInt32.ofNat outcome.status
