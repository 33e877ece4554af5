import SessionAuthority.Bytes
import SessionAuthority.Digest.PiWords

/-!
# The cipher behind password hashes

A block of two words passes sixteen rounds, each mixing in one of eighteen round words and four
table words.  Round words and tables start as digits of π; a key replaces them, word pair by word
pair, with what the cipher itself produces.
-/
set_option autoImplicit false

namespace SessionAuthority.Digest.Blowfish

/-- Round words (18) and tables (four of 256 words, one after the other). -/
structure State where
  keys : Array UInt32
  tables : Array UInt32

/-- The digits of π. -/
def initialWords : Array UInt32 := piWords 1042

def initial : State := ⟨initialWords.extract 0 18, initialWords.extract 18 1042⟩

/-- The mixing function of one half. -/
@[inline] def mix (tables : Array UInt32) (x : UInt32) : UInt32 :=
  let a := tables.getD (x >>> 24).toNat 0
  let b := tables.getD (256 + ((x >>> 16) &&& 0xFF).toNat) 0
  let c := tables.getD (512 + ((x >>> 8) &&& 0xFF).toNat) 0
  let d := tables.getD (768 + (x &&& 0xFF).toNat) 0
  ((a + b) ^^^ c) + d

/-- Two rounds at a time, from round word `i` on. -/
def rounds (keys tables : Array UInt32) : (pairs i : Nat) → (l r : UInt32) → UInt32 × UInt32
  | 0, i, l, r => (r ^^^ keys.getD (i + 1) 0, l ^^^ keys.getD i 0)
  | pairs + 1, i, l, r =>
      let l := l ^^^ keys.getD i 0
      let r := r ^^^ mix tables l
      let r := r ^^^ keys.getD (i + 1) 0
      let l := l ^^^ mix tables r
      rounds keys tables pairs (i + 2) l r

def encrypt (s : State) (l r : UInt32) : UInt32 × UInt32 := rounds s.keys s.tables 8 0 l r

/-- The words of a byte string that is read over and over. -/
def cyclicWords (key : Bytes) (count : Nat) : List UInt32 :=
  let n := key.length
  let octets := key.toArray
  (List.range count).map fun i =>
    (List.range 4).foldl (fun w j => (w <<< 8) ||| (octets.getD ((4 * i + j) % n) 0).toUInt32) 0

def mixKeys (keys : Array UInt32) (words : List UInt32) : Array UInt32 :=
  (List.zipWith (· ^^^ ·) keys.toList words).toArray

/-- Replace round words from `i` on; `salt` is read in pairs, over and over. -/
def fillKeys (salt : Array UInt32) : (pairs i : Nat) → State → (l r : UInt32) →
    State × UInt32 × UInt32
  | 0, _, s, l, r => (s, l, r)
  | pairs + 1, i, ⟨keys, tables⟩, l, r =>
      let out := rounds keys tables 8 0 (l ^^^ salt.getD (i % 4) 0) (r ^^^ salt.getD (i % 4 + 1) 0)
      let keys := (keys.setIfInBounds i out.1).setIfInBounds (i + 1) out.2
      fillKeys salt pairs (i + 2) ⟨keys, tables⟩ out.1 out.2

/-- Replace table words from `i` on; the salt goes on from where the round words left it. -/
def fillTables (salt keys : Array UInt32) : (pairs i : Nat) → (tables : Array UInt32) →
    (l r : UInt32) → Array UInt32
  | 0, _, tables, _, _ => tables
  | pairs + 1, i, tables, l, r =>
      let at_ := (i + 18) % 4
      let out := rounds keys tables 8 0 (l ^^^ salt.getD at_ 0) (r ^^^ salt.getD (at_ + 1) 0)
      let tables := (tables.setIfInBounds i out.1).setIfInBounds (i + 1) out.2
      fillTables salt keys pairs (i + 2) tables out.1 out.2

def expand (salt : Array UInt32) (words : List UInt32) (s : State) : State :=
  let (⟨keys, tables⟩, l, r) := fillKeys salt 9 0 ⟨mixKeys s.keys words, s.tables⟩ 0 0
  ⟨keys, fillTables salt keys 512 0 tables l r⟩

def noSalt : Array UInt32 := #[0, 0, 0, 0]

/-- Two keys in turn, many times. -/
def strengthen (first second : List UInt32) : (times : Nat) → State → State
  | 0, s => s
  | times + 1, s => strengthen first second times (expand noSalt second (expand noSalt first s))

def setup (cost : Nat) (password salt : Bytes) : State :=
  let key := cyclicWords password 18
  let saltWords := (cyclicWords salt 4).toArray
  strengthen key (cyclicWords salt 18) (Nat.pow 2 cost) (expand saltWords key initial)

def iterate (s : State) : (times : Nat) → UInt32 × UInt32 → UInt32 × UInt32
  | 0, block => block
  | times + 1, block => iterate s times (encrypt s block.1 block.2)

/-- The digest of a password: three blocks of a fixed text, 64 times through the cipher. -/
def digest (cost : Nat) (password salt : Bytes) : Bytes :=
  let s := setup cost password salt
  let text := cyclicWords (Bytes.ofString "OrpheanBeholderScryDoubt") 6
  let block i := iterate s 64 (text.getD i 0, text.getD (i + 1) 0)
  [0, 2, 4].flatMap fun i => Bytes.ofWord32 (block i).1 ++ Bytes.ofWord32 (block i).2

end SessionAuthority.Digest.Blowfish
