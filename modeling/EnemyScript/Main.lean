import EnemyScript.CommandLine

/-!
# The executable

Reads the file that the command line names and prints the outcome.
-/

open EnemyScript

def main (args : List String) : IO UInt32 := do
  let result ←
    match Request.ofArgs args with
    | .answer outcome => pure (.ok outcome)
    | .view options file => do
        let contents ←
          try
            let bytes ← IO.FS.readBinFile file
            pure (some bytes.data)
          catch _ => pure none
        pure (View.outcome options file contents)
  match result with
  | .ok outcome =>
      IO.print outcome.out
      IO.eprint outcome.err
      return outcome.exit.toUInt32
  | .error setting =>
      IO.eprintln ("ecl_decoder.py: no value for " ++ setting.label)
      return 1
