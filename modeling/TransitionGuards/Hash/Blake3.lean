/-
  The BLAKE3 hash of a byte string, 32 bytes long.

  The input is cut into chunks of 1024 bytes and those into blocks of 64. The
  compression function runs along the blocks of a chunk; the chaining values
  of the chunks are then combined two by two along a binary tree whose left
  subtrees are as large a power of two as fits. The root is compressed with a
  flag of its own.
-/

namespace TransitionGuards.Blake3

/-- Eight words, passed from one compression to the next. -/
abbrev Chaining := Vector UInt32 8

/-- The sixteen words of a block, or of the state of the compression. -/
abbrev Words := Vector UInt32 16

def iv : Chaining :=
  #v[0x6A09E667, 0xBB67AE85, 0x3C6EF372, 0xA54FF53A, 0x510E527F, 0x9B05688C, 0x1F83D9AB, 0x5BE0CD19]

def chunkStart : UInt32 := 1
def chunkEnd : UInt32 := 2
def parent : UInt32 := 4
def root : UInt32 := 8

/-! ## Compression -/

def rotateRight (x : UInt32) (n : UInt32) : UInt32 := (x >>> n) ||| (x <<< (32 - n))

/-- The quarter round on the state words `a`, `b`, `c`, `d` with two message
words. -/
def mix (s : Words) (a b c d : Fin 16) (mx my : UInt32) : Words :=
  let s := s.set a (s[a] + s[b] + mx)
  let s := s.set d (rotateRight (s[d] ^^^ s[a]) 16)
  let s := s.set c (s[c] + s[d])
  let s := s.set b (rotateRight (s[b] ^^^ s[c]) 12)
  let s := s.set a (s[a] + s[b] + my)
  let s := s.set d (rotateRight (s[d] ^^^ s[a]) 8)
  let s := s.set c (s[c] + s[d])
  s.set b (rotateRight (s[b] ^^^ s[c]) 7)

def round (s m : Words) : Words :=
  let s := mix s 0 4 8 12 m[0] m[1]
  let s := mix s 1 5 9 13 m[2] m[3]
  let s := mix s 2 6 10 14 m[4] m[5]
  let s := mix s 3 7 11 15 m[6] m[7]
  let s := mix s 0 5 10 15 m[8] m[9]
  let s := mix s 1 6 11 12 m[10] m[11]
  let s := mix s 2 7 8 13 m[12] m[13]
  mix s 3 4 9 14 m[14] m[15]

/-- The order of the message words in the next round. -/
def permute (m : Words) : Words :=
  #v[m[2], m[6], m[3], m[10], m[7], m[0], m[4], m[13], m[1], m[11], m[12], m[5], m[9], m[14], m[15], m[8]]

/-- Runs the rounds, the message permuted between two of them. -/
def rounds : Nat → Words → Words → Words
  | 0, s, _ => s
  | n + 1, s, m => rounds n (round s m) (permute m)

/-- What one compression is applied to. -/
structure Node where
  chaining : Chaining
  block : Words
  counter : UInt64
  length : UInt32
  flags : UInt32

/-- The chaining value that the compression of the node yields. -/
def Node.compress (n : Node) : Chaining :=
  let h := n.chaining
  let start : Words :=
    #v[h[0], h[1], h[2], h[3], h[4], h[5], h[6], h[7], iv[0], iv[1], iv[2], iv[3],
      n.counter.toUInt32, (n.counter >>> 32).toUInt32, n.length, n.flags]
  let s := rounds 7 start n.block
  Vector.ofFn fun i => s[i.val] ^^^ s[i.val + 8]

/-! ## Chunks -/

/-- The word of the first four bytes, the lowest first; missing bytes are
zero. -/
def word (bytes : List UInt8) : UInt32 :=
  (bytes.take 4).foldr (fun b w => (w <<< 8) ||| b.toUInt32) 0

/-- The words of a block of at most 64 bytes. -/
def words (bytes : List UInt8) : Words := Vector.ofFn fun i => word (bytes.drop (4 * i.val))

/-- Cuts a list into pieces of `n + 1` elements, the last one shorter if need
be. An empty list is one empty piece. -/
def pieces {α : Type} (n : Nat) (xs : List α) : List (List α) :=
  if xs.length ≤ n + 1 then [xs] else xs.take (n + 1) :: pieces n (xs.drop (n + 1))
termination_by xs.length
decreasing_by simp only [List.length_drop]; omega

/-- The node of the last block of a chunk, after compressing those before it. -/
def chunkNode (counter : UInt64) (h : Chaining) (flags : UInt32) : List (List UInt8) → Node
  | [] => ⟨h, words [], counter, 0, flags ||| chunkEnd⟩
  | [b] => ⟨h, words b, counter, b.length.toUInt32, flags ||| chunkEnd⟩
  | b :: rest =>
    chunkNode counter (Node.compress ⟨h, words b, counter, b.length.toUInt32, flags⟩) 0 rest

/-- The node of the `counter`-th chunk. -/
def ofChunk (counter : Nat) (bytes : List UInt8) : Node :=
  chunkNode counter.toUInt64 iv chunkStart (pieces 63 bytes)

/-! ## The tree -/

/-- The node above two subtrees. -/
def parentNode (left right : Chaining) : Node where
  chaining := iv
  block := left ++ right
  counter := 0
  length := 64
  flags := parent

/-- How many of `n` leaves go into the left subtree: the largest power of two
below `n`. -/
def leftSize (n : Nat) : Nat := Nat.pow 2 (Nat.log2 (n - 1))

theorem leftSize_pos (n : Nat) : 0 < leftSize n := Nat.two_pow_pos _

theorem leftSize_lt {n : Nat} (h : 2 ≤ n) : leftSize n < n := by
  have : leftSize n ≤ n - 1 := Nat.log2_self_le (by omega)
  omega

/-- The node at the top of the tree over the given leaves. -/
def top : List Node → Node
  | [] => ofChunk 0 []
  | [n] => n
  | a :: b :: rest =>
    let half := leftSize (rest.length + 2)
    parentNode (top ((a :: b :: rest).take half)).compress (top ((a :: b :: rest).drop half)).compress
termination_by leaves => leaves.length
decreasing_by
  · have := leftSize_lt (n := rest.length + 2) (by omega)
    simp only [List.length_take, List.length_cons]; omega
  · have := leftSize_pos (rest.length + 2)
    simp only [List.length_drop, List.length_cons]; omega

def hashWords (bytes : List UInt8) : Chaining :=
  let leaves := (pieces 1023 bytes).zipIdx.map fun (chunk, i) => ofChunk i chunk
  let n := top leaves
  { n with flags := n.flags ||| root }.compress

/-- The first eight bytes of the hash as a number, the lowest byte first. -/
def hashStart (bytes : List UInt8) : UInt64 :=
  let h := hashWords bytes
  (h[1].toUInt64 <<< 32) ||| h[0].toUInt64

end TransitionGuards.Blake3
