import EnemyScript.Numeral
import EnemyScript.Signature.Table

/-!
# The opcode tables as a listing

Each signature stands with its opcode and the size that all its records have.
-/

namespace EnemyScript

open Numeral

def Signature.line (s : Signature) : String :=
  "  " ++ alignRight 3 (decimal s.opcode) ++ " [" ++ alignRight 3 (decimal s.recordSize) ++ "b] " ++
    s.text

namespace Listing

def opcodeTable (title : String) (signatures : List Signature) : List String :=
  ("=== " ++ title ++ " opcodes (" ++ decimal signatures.length ++ ") ===") ::
    signatures.map Signature.line

def opcodes : List String :=
  opcodeTable "Main" Dialect.main.signatures ++ "" :: opcodeTable "Sub" Dialect.sub.signatures

end Listing

end EnemyScript
