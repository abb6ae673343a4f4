import EnemyScript.Signature

/-!
# Instructions of the script dialect

What one enemy can do, by opcode. The opcodes 44, 53 to 55, 58, 60, 62, 64, 72, 73, 80, 89 and
110 have no known arguments and no signature.
-/

namespace EnemyScript.SubDialect

/-- Arguments of a call that depends on a comparison. -/
def conditionalCallFields : List Field :=
  [.i32 "sub", .i32 "param1", .f32 "param2", .i32 "a", .i32 "b"]

/-- Arguments of the bullet attributes. -/
def bulletFields : List Field :=
  [.i16 "anim", .i16 "sprite_index_offset", .i32 "bullets_per_shot", .i32 "number_of_shots",
    .f32 "speed", .f32 "speed2", .f32 "launch_angle", .f32 "angle", .u32 "flags"]

/-- Arguments of a new laser. -/
def laserFields : List Field :=
  [.i16 "laser_type", .i16 "sprite_idx_offset", .f32 "angle", .f32 "speed", .f32 "start_offset",
    .f32 "end_offset", .f32 "max_length", .f32 "width", .i32 "start_duration", .i32 "duration",
    .i32 "end_duration", .i32 "grazing_delay", .i32 "grazing_extra_duration", .i32 "UNK1"]

/-- Control flow and variables. -/
def controlFlow : List Signature :=
  [
    ⟨.sub, 0, "Noop", []⟩,
    ⟨.sub, 1, "Destroy", [.u32 "unused"]⟩,
    ⟨.sub, 2, "RelativeJump", [.i32 "frame", .i32 "ip"]⟩,
    ⟨.sub, 3, "RelativeJumpEx", [.i32 "frame", .i32 "ip", .i32 "variable_id"]⟩,
    ⟨.sub, 4, "SetInt", [.i32 "var", .i32 "value"]⟩,
    ⟨.sub, 5, "SetFloat", [.i32 "var", .f32 "value"]⟩,
    ⟨.sub, 6, "SetRandomInt", [.i32 "var", .i32 "max"]⟩,
    ⟨.sub, 7, "SetRandomIntMin", [.i32 "var", .i32 "max", .i32 "min"]⟩,
    ⟨.sub, 8, "SetRandomFloat", [.i32 "var", .f32 "max"]⟩,
    ⟨.sub, 9, "SetRandomFloatMin", [.i32 "var", .f32 "amplitude", .f32 "min"]⟩,
    ⟨.sub, 10, "StoreX", [.i32 "var"]⟩,
    ⟨.sub, 11, "StoreY", [.i32 "var"]⟩,
    ⟨.sub, 12, "StoreZ", [.i32 "var"]⟩,
    ⟨.sub, 13, "AddInt", [.i32 "var", .i32 "a", .i32 "b"]⟩,
    ⟨.sub, 14, "SubstractInt", [.i32 "var", .i32 "a", .i32 "b"]⟩,
    ⟨.sub, 15, "MultiplyInt", [.i32 "var", .i32 "a", .i32 "b"]⟩,
    ⟨.sub, 16, "DivideInt", [.i32 "var", .i32 "a", .i32 "b"]⟩,
    ⟨.sub, 17, "ModuloInt", [.i32 "var", .i32 "a", .i32 "b"]⟩,
    ⟨.sub, 18, "Increment", [.i32 "var"]⟩,
    ⟨.sub, 19, "Decrement", [.i32 "var"]⟩,
    ⟨.sub, 20, "AddFloat", [.i32 "var", .f32 "a", .f32 "b"]⟩,
    ⟨.sub, 21, "SubstractFloat", [.i32 "var", .f32 "a", .f32 "b"]⟩,
    ⟨.sub, 22, "MultiplyFloat", [.i32 "var", .f32 "a", .f32 "b"]⟩,
    ⟨.sub, 23, "DivideFloat", [.i32 "var", .f32 "a", .f32 "b"]⟩,
    ⟨.sub, 24, "ModuloFloat", [.i32 "var", .f32 "a", .f32 "b"]⟩,
    ⟨.sub, 25, "GetDirection", [.i32 "var", .f32 "x1", .f32 "y1", .f32 "x2", .f32 "y2"]⟩,
    ⟨.sub, 26, "FloatToUnitCircle", [.i32 "var"]⟩,
    ⟨.sub, 27, "CompareInts", [.i32 "a", .i32 "b"]⟩,
    ⟨.sub, 28, "CompareFloats", [.f32 "a", .f32 "b"]⟩,
    ⟨.sub, 29, "RelativeJumpIfLowerThan", [.i32 "frame", .i32 "ip"]⟩,
    ⟨.sub, 30, "RelativeJumpIfLowerOrEqual", [.i32 "frame", .i32 "ip"]⟩,
    ⟨.sub, 31, "RelativeJumpIfEqual", [.i32 "frame", .i32 "ip"]⟩,
    ⟨.sub, 32, "RelativeJumpIfGreaterThan", [.i32 "frame", .i32 "ip"]⟩,
    ⟨.sub, 33, "RelativeJumpIfGreaterOrEqual", [.i32 "frame", .i32 "ip"]⟩,
    ⟨.sub, 34, "RelativeJumpIfNotEqual", [.i32 "frame", .i32 "ip"]⟩,
    ⟨.sub, 35, "Call", [.i32 "sub", .i32 "param1", .f32 "param2"]⟩,
    ⟨.sub, 36, "Return", []⟩,
    ⟨.sub, 37, "CallIfSuperior", conditionalCallFields⟩,
    ⟨.sub, 38, "CallIfSuperiorOrEqual", conditionalCallFields⟩,
    ⟨.sub, 39, "CallIfEqual", conditionalCallFields⟩,
    ⟨.sub, 40, "CallIfInferior", conditionalCallFields⟩,
    ⟨.sub, 41, "CallIfInferiorOrEqual", conditionalCallFields⟩,
    ⟨.sub, 42, "CallIfNotEqual", conditionalCallFields⟩
  ]

/-- Movement of the enemy. -/
def movement : List Signature :=
  [
    ⟨.sub, 43, "SetPosition", [.f32 "x", .f32 "y", .f32 "z"]⟩,
    ⟨.sub, 45, "SetAngleAndSpeed", [.f32 "angle", .f32 "speed"]⟩,
    ⟨.sub, 46, "SetRotationSpeed", [.f32 "speed"]⟩,
    ⟨.sub, 47, "SetSpeed", [.f32 "speed"]⟩,
    ⟨.sub, 48, "SetAcceleration", [.f32 "acceleration"]⟩,
    ⟨.sub, 49, "SetRandomAngle", [.f32 "min", .f32 "max"]⟩,
    ⟨.sub, 50, "SetRandomAngleEx", [.f32 "min", .f32 "max"]⟩,
    ⟨.sub, 51, "TargetPlayer", [.f32 "angle", .f32 "speed"]⟩,
    ⟨.sub, 52, "MoveInDecel", [.i32 "duration", .f32 "angle", .f32 "speed"]⟩,
    ⟨.sub, 56, "MoveToLinear", [.i32 "duration", .f32 "x", .f32 "y", .f32 "z"]⟩,
    ⟨.sub, 57, "MoveToDecel", [.i32 "duration", .f32 "x", .f32 "y", .f32 "z"]⟩,
    ⟨.sub, 59, "MoveToAccel", [.i32 "duration", .f32 "x", .f32 "y", .f32 "z"]⟩,
    ⟨.sub, 61, "StopIn", [.i32 "duration"]⟩,
    ⟨.sub, 63, "StopInAccel", [.i32 "duration"]⟩,
    ⟨.sub, 65, "SetScreenBox", [.f32 "xmin", .f32 "ymin", .f32 "xmax", .f32 "ymax"]⟩,
    ⟨.sub, 66, "ClearScreenBox", []⟩
  ]

/-- Bullets and lasers. -/
def bullets : List Signature :=
  [
    ⟨.sub, 67, "SetBulletAttributes1", bulletFields⟩,
    ⟨.sub, 68, "SetBulletAttributes2", bulletFields⟩,
    ⟨.sub, 69, "SetBulletAttributes3", bulletFields⟩,
    ⟨.sub, 70, "SetBulletAttributes4", bulletFields⟩,
    ⟨.sub, 71, "SetBulletAttributes5", bulletFields⟩,
    ⟨.sub, 74, "SetBulletAttributes6", bulletFields⟩,
    ⟨.sub, 75, "SetBulletAttributes7", bulletFields⟩,
    ⟨.sub, 76, "SetBulletInterval", [.i32 "interval"]⟩,
    ⟨.sub, 77, "SetBulletIntervalEx", [.i32 "interval"]⟩,
    ⟨.sub, 78, "DelayAttack", []⟩,
    ⟨.sub, 79, "NoDelayAttack", []⟩,
    ⟨.sub, 81, "SetBulletLaunchOffset", [.f32 "x", .f32 "y", .f32 "z"]⟩,
    ⟨.sub, 82, "SetExtendedBulletAttributes",
      [.i32 "a", .i32 "b", .i32 "c", .i32 "d", .f32 "e", .f32 "f", .f32 "g", .f32 "h"]⟩,
    ⟨.sub, 83, "ChangeBulletsInStarBonus", []⟩,
    ⟨.sub, 84, "SetBulletSound", [.i32 "sound"]⟩,
    ⟨.sub, 85, "NewLaser", laserFields⟩,
    ⟨.sub, 86, "NewLaserTowardsPlayer", laserFields⟩,
    ⟨.sub, 87, "SetUpcomingLaserId", [.u32 "id"]⟩,
    ⟨.sub, 88, "AlterLaserAngle", [.u32 "id", .f32 "delta"]⟩,
    ⟨.sub, 90, "RepositionLaser", [.u32 "id", .f32 "ox", .f32 "oy", .f32 "oz"]⟩,
    ⟨.sub, 91, "LaserSetCompare", [.u32 "id"]⟩,
    ⟨.sub, 92, "CancelLaser", [.u32 "id"]⟩
  ]

/-- Spell cards, spawning and animation. -/
def spellcards : List Signature :=
  [
    ⟨.sub, 93, "SetSpellcard", [.i16 "face", .i16 "number", .str "name"]⟩,
    ⟨.sub, 94, "EndSpellcard", []⟩,
    ⟨.sub, 95, "SpawnEnemy",
      [.i32 "sub", .f32 "x", .f32 "y", .f32 "z", .i16 "life", .i16 "bonus_dropped",
       .i32 "die_score"]⟩,
    ⟨.sub, 96, "KillAllEnemies", []⟩,
    ⟨.sub, 97, "SetAnim", [.i32 "script"]⟩,
    ⟨.sub, 98, "SetMultipleAnims",
      [.i16 "default", .i16 "end_left", .i16 "end_right", .i16 "left", .i16 "right",
       .i16 "unused"]⟩,
    ⟨.sub, 99, "SetAuxAnm", [.i32 "number", .i32 "script"]⟩,
    ⟨.sub, 100, "SetDeathAnim", [.i32 "sprite_index"]⟩,
    ⟨.sub, 101, "SetBossMode", [.i32 "value"]⟩,
    ⟨.sub, 102, "CreateSquares",
      [.i32 "UNK1", .f32 "UNK2", .f32 "UNK3", .f32 "UNK4", .f32 "UNK5"]⟩
  ]

/-- State of the enemy and its callbacks. -/
def state : List Signature :=
  [
    ⟨.sub, 103, "SetHitbox", [.f32 "width", .f32 "height", .f32 "depth"]⟩,
    ⟨.sub, 104, "SetCollidable", [.i32 "collidable"]⟩,
    ⟨.sub, 105, "SetDamageable", [.i32 "damageable"]⟩,
    ⟨.sub, 106, "PlaySound", [.i32 "index"]⟩,
    ⟨.sub, 107, "SetDeathFlags", [.u32 "death_flags"]⟩,
    ⟨.sub, 108, "SetDeathCallback", [.i32 "sub"]⟩,
    ⟨.sub, 109, "MemoryWriteInt", [.i32 "value", .i32 "index"]⟩,
    ⟨.sub, 111, "SetLife", [.i32 "life"]⟩,
    ⟨.sub, 112, "SetElapsedTime", [.i32 "frame"]⟩,
    ⟨.sub, 113, "SetLowLifeTrigger", [.i32 "trigger"]⟩,
    ⟨.sub, 114, "SetLowLifeCallback", [.i32 "sub"]⟩,
    ⟨.sub, 115, "SetTimeout", [.i32 "timeout"]⟩,
    ⟨.sub, 116, "SetTimeoutCallback", [.i32 "sub"]⟩,
    ⟨.sub, 117, "SetTouchable", [.i32 "touchable"]⟩,
    ⟨.sub, 118, "DropParticles",
      [.i32 "anim", .u32 "number", .u8 "r", .u8 "g", .u8 "b", .u8 "a"]⟩,
    ⟨.sub, 119, "DropBonus", [.i32 "number"]⟩,
    ⟨.sub, 120, "SetAutomaticOrientation", [.i32 "automatic"]⟩,
    ⟨.sub, 121, "CallSpecialFunction", [.i32 "function", .i32 "argument"]⟩,
    ⟨.sub, 122, "SetSpecialFunctionCallback", [.i32 "function"]⟩,
    ⟨.sub, 123, "SkipFrames", [.i32 "frames"]⟩,
    ⟨.sub, 124, "DropSpecificBonus", [.i32 "type_"]⟩,
    ⟨.sub, 125, "UNK_ins125", []⟩,
    ⟨.sub, 126, "SetRemainingLives", [.i32 "lives"]⟩,
    ⟨.sub, 127, "UNK_ins127", [.i32 "UNK1"]⟩,
    ⟨.sub, 128, "Interrupt", [.i32 "event"]⟩,
    ⟨.sub, 129, "InterruptAux", [.i32 "number", .i32 "event"]⟩,
    ⟨.sub, 130, "UNK_ins130", [.i32 "UNK1"]⟩,
    ⟨.sub, 131, "SetDifficultyCoeffs",
      [.f32 "speed_a", .f32 "speed_b", .i32 "nb_a", .i32 "nb_b", .i32 "shots_a", .i32 "shots_b"]⟩,
    ⟨.sub, 132, "SetInvisible", [.i32 "invisible"]⟩,
    ⟨.sub, 133, "CopyCallbacks", []⟩,
    ⟨.sub, 134, "UNK_ins134", []⟩,
    ⟨.sub, 135, "EnableSpellcardBonus", [.i32 "UNK1"]⟩
  ]

def signatures : List Signature := controlFlow ++ movement ++ bullets ++ spellcards ++ state

end EnemyScript.SubDialect
