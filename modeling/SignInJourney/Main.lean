import Std.Internal.UV.Signal
import Std.Time.DateTime.Timestamp
import SignInJourney.Command.Run
import SignInJourney.Store.CleanUp
import SignInJourney.Store.File

/-! The program: its commands run on the files, the clock and the signals of the process. -/

namespace SignInJourney.Main

open Command Time

def readText (path : String) : IO (Option String) := do
  try
    pure (some (← IO.FS.readFile path))
  catch _ => pure none

/-- The directory that a path leads to its file through, if it names one. -/
def parent? (path : String) : Option String :=
  match (path.splitOn "/").dropLast with
  | [] | [""] => none
  | parts => some ("/".intercalate parts)

def saveRecords (path : String) (records : Dictionary (List UInt8)) : IO Unit :=
  IO.FS.writeBinFile path (ByteArray.mk (StoreFile.content records).toArray)

/-- Makes a store that is not there yet, and reads it. -/
def openRecords (path : String) : IO (Option (Dictionary (List UInt8))) := do
  try
    if let some parent := parent? path then IO.FS.createDirAll parent
    IO.FS.withFile path .append fun _ => pure ()
    pure (StoreFile.records? (← IO.FS.readBinFile path).toList)
  catch _ => pure none

/-- The instant that the clock shows. -/
def now : IO Instant := do
  let nanos := (← Std.Time.Timestamp.now).toNanosecondsSinceUnixEpoch.toInt
  match Instant.of? (nanos / 1000000000) (nanos % 1000000000).toNat with
  | some t => pure t
  | none => throw (IO.userError "The clock is out of range")

/-- Lets seconds pass until one of them ends after an interrupt. -/
partial def cleanUp (path : String) (interrupted : IO Bool) (c : CleanUp) : IO Unit := do
  IO.sleep 1000
  if ← interrupted then return
  let c := c.tick (← now)
  if c.elapsed % c.interval == 0 then saveRecords path c.store.records
  cleanUp path interrupted c

/-- The number of the signal that an interrupt sends. -/
def interruptSignal : Int32 := 2

def sweepUntilInterrupted (config : Config) (retention : Span) (store : Store) : IO Unit := do
  let signal ← Std.Internal.UV.Signal.mk interruptSignal false
  let raised ← signal.next
  let c := CleanUp.start config.cleanupInterval.toNat retention store
  cleanUp config.storePath (IO.hasFinished raised.result?) c
  signal.stop

def host : Host IO where
  readText := readText
  openRecords := openRecords
  saveRecords := saveRecords
  now := now
  sweepUntilInterrupted := sweepUntilInterrupted

/-- The variables of the process environment that the command line looks at. -/
def variableNames : List String :=
  verboseVariable :: PathOption.all.map PathOption.variableName

def environment : IO (List (String × String)) :=
  variableNames.filterMapM fun name => do
    pure ((← IO.getEnv name).map fun value => (name, value))

end SignInJourney.Main

def main (args : List String) : IO UInt32 := do
  let env ← SignInJourney.Main.environment
  let outcome ← SignInJourney.Command.execute SignInJourney.Main.host env args
  for line in outcome.output do
    IO.println line
  if let some message := outcome.error then IO.eprintln ("Error: " ++ message)
  return UInt32.ofNat outcome.exit
