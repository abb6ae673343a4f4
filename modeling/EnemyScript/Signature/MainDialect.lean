import EnemyScript.Signature

/-!
# Instructions of the schedule dialect

What a stage schedule can do: spawn enemies and wait for messages or for the end of a boss.
-/

namespace EnemyScript.MainDialect

/-- Arguments of a spawned enemy. -/
def spawnFields : List Field :=
  [.f32 "x", .f32 "y", .f32 "z", .i16 "life", .i16 "bonus_dropped", .u32 "die_score"]

/-- Every signature, by ascending opcode. -/
def signatures : List Signature :=
  [
    ⟨.main, 0, "SpawnEnemy", spawnFields⟩,
    ⟨.main, 2, "SpawnEnemyMirrored", spawnFields⟩,
    ⟨.main, 4, "SpawnEnemyRandom", spawnFields⟩,
    ⟨.main, 6, "SpawnEnemyMirroredRandom", spawnFields⟩,
    ⟨.main, 8, "CallMessage", []⟩,
    ⟨.main, 9, "WaitMessage", []⟩,
    ⟨.main, 10, "ResumeEcl", [.f32 "x", .f32 "y"]⟩,
    ⟨.main, 12, "WaitForBossDeath", []⟩
  ]

end EnemyScript.MainDialect
