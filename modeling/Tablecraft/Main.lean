import Tablecraft.CommandLine.Run

namespace Tablecraft.CommandLine

def reasonText : IO.Error → String
  | .noFileOrDirectory _ number reason | .inappropriateType (some _) number reason
  | .permissionDenied (some _) number reason | .alreadyExists (some _) number reason =>
    reason ++ " (os error " ++ Text.ofNat number.toNat ++ ")"
  | e => toString e

def onDisk {α : Type} (action : IO α) : IO (Except String α) := do
  match ← action.toBaseIO with
  | .ok a => return .ok a
  | .error e => return .error (reasonText e)

def disk : Host IO where
  read path := onDisk (IO.FS.readFile path)
  isFile path := return (← (IO.FS.readFile path).toBaseIO).toOption.isSome
  write path text := onDisk (IO.FS.writeFile path text)

def configDirectory : IO (Option String) := do
  match ← IO.getEnv "XDG_CONFIG_HOME", ← IO.getEnv "HOME" with
  | some directory, home =>
    if directory.startsWith "/" then return some directory
    else return home.map (· ++ "/.config")
  | none, home => return home.map (· ++ "/.config")

end Tablecraft.CommandLine

open Tablecraft.CommandLine

def main (words : List String) : IO UInt32 := do
  let platform ← IO.getEnv "STRATA_PLATFORM"
  let outcome ← run disk { platform, configDirectory := ← configDirectory } words
  match outcome with
  | .finished output => IO.print output
  | .failed message => IO.eprintln ("Error: " ++ message)
  | .misused => IO.eprintln help
  return UInt32.ofNat outcome.code
