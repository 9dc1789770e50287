import Mathlib.Algebra.Group.Int.Defs
import Mathlib.Algebra.Group.Nat.Defs
import SessionGateway.Proofs.Selection.Resolution
import SessionGateway.Proofs.Selection.Rotation

/-! Positions in a list. No choice divides by zero or reaches beyond the candidates, whatever the counter and the
source of random draws say. The position of a player is told by the number of its id: the words of the id
are folded together and the sign is dropped, so an id and its complement have the same position. -/
namespace SessionGateway.Selection

/-! ### Steps that can fail -/

/-- A remainder; there is none by zero. -/
def remainder? (a n : Nat) : Option Nat := if n = 0 then none else some (a % n)

theorem remainder?_eq {a n : Nat} (divisor : n ≠ 0) : remainder? a n = some (a % n) := if_neg divisor

namespace Rotation

variable (source : Nat → Nat) (r : Rotation) (strategy : Strategy) (candidates : Candidates)

/-- A position as each strategy tells it, which reduces its turn or its hash by itself. There is no draw from
an empty range. -/
def pick? (count : Nat) (player : Option Int64) : Option (Nat × Rotation) :=
  let nextTurn := (remainder? r.turn.1 count).map fun position => (position, r.turn.2)
  match strategy with
  | .roundRobin => nextTurn
  | .random => if count = 0 then none else some (source r.draws, { r with draws := r.draws + 1 })
  | .designated => some (0, r)
  | .consistentHash =>
    match player, candidates with
    | some p, _ => (Strategy.indexFor? p count).map fun position => (position, r)
    | none, .live => nextTurn
    | none, .configured => some (0, r)

def select? (count : Nat) (player : Option Int64) : Option (Option Nat × Rotation) :=
  match count with
  | 0 => some (none, r)
  | 1 => some (some 0, r)
  | n =>
    (r.pick? source strategy candidates n player).bind fun (position, r) =>
      (remainder? position n).map fun position => (some position, r)

def choose? {α : Type} (among : List α) (player : Option Int64) : Option (Option α × Rotation) :=
  (r.select? source strategy candidates among.length player).map fun (position, r) =>
    (position.bind (among[·]?), r)

theorem pick?_eq {count : Nat} (candidate : count ≠ 0) (player : Option Int64) :
    ∃ position, r.pick? source strategy candidates count player =
        some (position, (r.pick source strategy candidates player).2) ∧
      position % count = (r.pick source strategy candidates player).1 % count := by
  have reduced (a : Nat) : a % count % count = a % count := Nat.mod_mod a count
  cases strategy with
  | roundRobin => exact ⟨_, by simp [pick?, pick, remainder?_eq candidate], reduced _⟩
  | random => exact ⟨_, by simp [pick?, pick, candidate], rfl⟩
  | designated => exact ⟨_, rfl, rfl⟩
  | consistentHash =>
    cases player with
    | some p => exact ⟨_, by simp [pick?, pick, Strategy.indexFor?, candidate], reduced _⟩
    | none =>
      cases candidates with
      | live => exact ⟨_, by simp [pick?, pick, remainder?_eq candidate], reduced _⟩
      | configured => exact ⟨_, rfl, rfl⟩

theorem select?_eq (count : Nat) (player : Option Int64) :
    r.select? source strategy candidates count player =
      some (r.select source strategy candidates count player) := by
  match count with
  | 0 => rfl
  | 1 => rfl
  | more + 2 =>
    have candidate : more + 2 ≠ 0 := Nat.succ_ne_zero _
    obtain ⟨position, picked, same⟩ := pick?_eq source r strategy candidates candidate player
    have twice : r.select? source strategy candidates (more + 2) player =
        (r.pick? source strategy candidates (more + 2) player).bind fun (position, r) =>
          (remainder? position (more + 2)).map fun position => (some position, r) := rfl
    rw [select_several source r (Nat.le_add_left 2 more), twice, picked]
    simp [remainder?_eq candidate, same]

theorem choose?_eq {α : Type} (among : List α) (player : Option Int64) :
    r.choose? source strategy candidates among player =
      some (r.choose source strategy candidates among player) := by
  rw [choose?, select?_eq]
  rfl

theorem choose_eq_none_iff {α : Type} (among : List α) (player : Option Int64) :
    (r.choose source strategy candidates among player).1 = none ↔ among = [] := by
  constructor
  · intro unchosen
    by_contra some_candidate
    obtain ⟨a, _, chosen⟩ := r.choose_mem source strategy candidates some_candidate player
    cases unchosen.symm.trans chosen
  · rintro rfl
    rw [choose_nil]

theorem mem_of_choose {α : Type} {among : List α} {a : α} {player : Option Int64}
    (chosen : (r.choose source strategy candidates among player).1 = some a) : a ∈ among := by
  have some_candidate : among ≠ [] := by
    intro unlisted
    have unchosen := (r.choose_eq_none_iff source strategy candidates among player).mpr unlisted
    cases unchosen.symm.trans chosen
  obtain ⟨b, listed, same⟩ := r.choose_mem source strategy candidates some_candidate player
  obtain rfl := Option.some.inj (same.symm.trans chosen)
  exact listed

end Rotation

/-! ### The number of an id -/

def lowWord (player : Int64) : Nat := (player.toInt % 2 ^ 32).toNat

def highWord (player : Int64) : Nat := (player.toInt / 2 ^ 32 % 2 ^ 32).toNat

def signedWord (w : Nat) : Int := if w < 2 ^ 31 then w else w - 2 ^ 32

theorem toNat_toUInt64 (player : Int64) : player.toUInt64.toNat = (player.toInt % 2 ^ 64).toNat := by
  have number := BitVec.toNat_ofInt (n := 64) player.toBitVec.toInt
  rw [BitVec.ofInt_toInt] at number
  exact number

theorem toNat_shiftRight_half (x : UInt64) : (x >>> 32).toNat = x.toNat / 2 ^ 32 := by
  rw [UInt64.toNat_shiftRight]
  exact Nat.shiftRight_eq_div_pow _ _

theorem toInt_toInt32 (w : UInt32) : w.toInt32.toInt = signedWord w.toNat := by
  have places : w.toInt32.toInt = w.toBitVec.toInt := rfl
  rw [places, BitVec.toInt_eq_toNat_cond, UInt32.toNat_toBitVec, signedWord]
  split <;> split <;> omega

namespace Strategy

/-- The hash in exact numbers. Without its sign the least signed word is 2 ^ 31. -/
theorem playerHash_eq (player : Int64) :
    playerHash player = (signedWord (lowWord player ^^^ highWord player)).natAbs := by
  have folded : (player.toUInt64 ^^^ (player.toUInt64 >>> 32)).toUInt32.toNat =
      lowWord player ^^^ highWord player := by
    rw [UInt64.toNat_toUInt32, UInt64.toNat_xor, toNat_shiftRight_half, Nat.xor_mod_two_pow, toNat_toUInt64]
    congr 1
    · unfold lowWord
      omega
    · unfold highWord
      omega
  rw [playerHash, toInt_toInt32, folded]

theorem playerHash_of_small {player : Int64} (nonneg : 0 ≤ player.toInt) (small : player.toInt < 2 ^ 31) :
    playerHash player = player.toInt.toNat := by
  have low : lowWord player = player.toInt.toNat := by
    unfold lowWord
    omega
  have high : highWord player = 0 := by
    unfold highWord
    omega
  rw [playerHash_eq, low, high, Nat.xor_zero, signedWord, if_pos (by omega)]
  omega

/-- Both halves are complemented, and the two complements cancel out. -/
theorem fold_not (x : UInt64) : (~~~x ^^^ (~~~x >>> 32)).toUInt32 = (x ^^^ (x >>> 32)).toUInt32 := by
  have high : (~~~x >>> 32).toUInt32 = ~~~(x >>> 32).toUInt32 := by
    apply UInt32.toNat_inj.mp
    have below := x.toNat_lt
    rw [UInt64.toNat_toUInt32, toNat_shiftRight_half, UInt64.toNat_not, UInt32.toNat_not,
      UInt64.toNat_toUInt32, toNat_shiftRight_half]
    simp only [UInt64.size, UInt32.size]
    omega
  rw [UInt64.toUInt32_xor, UInt64.toUInt32_xor, UInt64.toUInt32_not, high, UInt32.not_xor, UInt32.xor_not,
    UInt32.not_not]

theorem neg_one_sub_eq_not (player : Int64) : -1 - player = ~~~player := by
  rw [Int64.not_eq_neg_sub]
  grind

theorem playerHash_complement (player : Int64) : playerHash (-1 - player) = playerHash player := by
  rw [neg_one_sub_eq_not, playerHash, Int64.toUInt64_not, fold_not]
  rfl

theorem playerHash_of_small_negative {player : Int64} (small : -2 ^ 31 ≤ player.toInt)
    (negative : player.toInt < 0) : playerHash player = (-1 - player.toInt).toNat := by
  have complement : (-1 - player).toInt = -1 - player.toInt := by
    rw [neg_one_sub_eq_not, Int64.toInt_not, Int.bmod_eq_of_le] <;> omega
  rw [← playerHash_complement, playerHash_of_small, complement] <;> omega

theorem indexFor?_eq {count : Nat} (candidate : 1 ≤ count) (player : Int64) :
    indexFor? player count = some (playerHash player % count) :=
  if_neg (Nat.ne_of_gt candidate)

end Strategy

/-- Among any candidates, no step of a choice fails, and one of them is chosen if there is any, whatever the
strategy, the counter, the random draws and the player. The position of a player is the number of the folded
words of its id, as two's complement and without its sign, modulo the number of the candidates: so small ids
are their own number, and an id and its complement have one position. -/
theorem choices_within_list :
    (∀ (source : Nat → Nat) (r : Rotation) (strategy : Strategy) (candidates : Candidates) (α : Type)
        (among : List α) (player : Option Int64),
      let chosen := (r.choose source strategy candidates among player).1
      r.choose? source strategy candidates among player =
        some (r.choose source strategy candidates among player) ∧
      (chosen = none ↔ among = []) ∧ ∀ a, chosen = some a → a ∈ among) ∧
    ∀ (player : Int64) (count : Nat), 1 ≤ count →
      let word := lowWord player ^^^ highWord player
      Strategy.indexFor? player count = some ((signedWord word).natAbs % count) ∧
      (word = 2 ^ 31 → Strategy.indexFor? player count = some (2 ^ 31 % count)) ∧
      (0 ≤ player.toInt → player.toInt < 2 ^ 31 →
        Strategy.indexFor? player count = some (player.toInt.toNat % count)) ∧
      (-2 ^ 31 ≤ player.toInt → player.toInt < 0 →
        Strategy.indexFor? player count = some ((-1 - player.toInt).toNat % count)) ∧
      Strategy.indexFor? (-1 - player) count = Strategy.indexFor? player count := by
  refine ⟨?_, ?_⟩
  · intro source r strategy candidates α among player chosen
    exact ⟨r.choose?_eq source strategy candidates among player,
      r.choose_eq_none_iff source strategy candidates among player,
      fun a => r.mem_of_choose source strategy candidates⟩
  · intro player count candidate word
    simp only [Strategy.indexFor?_eq candidate]
    refine ⟨by rw [Strategy.playerHash_eq], ?_, ?_, ?_, by rw [Strategy.playerHash_complement]⟩
    · intro least
      have folded : lowWord player ^^^ highWord player = 2 ^ 31 := least
      rw [Strategy.playerHash_eq, folded]
      rfl
    · intro nonneg small
      rw [Strategy.playerHash_of_small nonneg small]
    · intro small negative
      rw [Strategy.playerHash_of_small_negative small negative]

/-- The id whose words fold to the least signed word, and the last turn before the counter starts again. -/
example : Strategy.indexFor? 0x80000000 7 = some (2 ^ 31 % 7) ∧
    Rotation.choose (fun _ => 0) ⟨0xFFFFFFFFFFFFFFFF, 0⟩ .roundRobin .live [4, 5, 6] none = (some 4, ⟨0, 0⟩) := by
  decide

end SessionGateway.Selection
