import TempestaFw.ParserTest.DoSplit

/-!
# The HTTP/2 frame builder of the parser tests

`FOR_REQ_H2` builds the frames of an HTTP/2 request in the static buffer `frames_str_buf`
(`3 * 1024` bytes): `H2_BUILDER_INIT`, `H2_BUILDER_SET_BUF(frames_str_buf)`, then frames of
`HEADER` steps (each a literal header field without indexing) and frames of `DATA` steps.
Each step copies its bytes at `frames_buf_ptr` and only then checks the pointer against the
end of the buffer.  The buffer is a list of fixed length whose writes fail when they do not
fit, and a NULL pointer is a write outside any buffer.  `write_int` is declared outside the
test header, so the builder takes it as the argument `writeInt`.

Every step is described once by `Emits`: the bytes it should write, written when they fit,
an out-of-range write otherwise.  `h2Build_ends` derives from that how every block ends.
`h2Build_layout`: a block that is built lays its frames out one after the other from the start
of the buffer, with the bytes of their header fields and data records, and the globals agree.
A block whose bytes do not fit is written past the buffer before any `BUG_ON` is tested
(`oversized_data_record_written_past_buffer`).
-/

set_option autoImplicit false

namespace TempestaFw.ParserTest

/-- `sizeof(frames_str_buf)`. -/
def FRAMES_STR_BUF_SIZE : Nat := 3 * 1024

/-- `LIT_HDR_FLD_WO_IND` of `tfw_h2_encode_header`. -/
def LIT_HDR_FLD_WO_IND : UInt8 := 0x00

/-- `TfwDataRec`: the `size` bytes at `buf`. -/
structure TfwDataRec where
  buf : List UInt8
  deriving DecidableEq, Repr

def TfwDataRec.size (data : TfwDataRec) : Nat := data.buf.length

structure TfwHeaderRec where
  name : TfwDataRec
  value : TfwDataRec
  deriving DecidableEq, Repr

/-- A record of `frames` as the builder fills it in, `str` an offset into `frames_str_buf`. -/
structure BuiltFrame where
  len : Nat
  str : Nat
  subtype : TfwFrameType
  deriving DecidableEq, Repr

/-- The builder's globals: `frames_str_buf`, `frames_buf_ptr` as an offset into it (`none` is
NULL), `frames_buf_capacity`, `frames[0 .. frames_cnt)`, `frames_max_sz` and
`frames_total_sz`. -/
structure H2Builder where
  strBuf : List UInt8
  strBuf_length : strBuf.length = FRAMES_STR_BUF_SIZE
  bufPtr : Option Nat
  bufCapacity : Nat
  frames : List BuiltFrame
  cnt_le : frames.length ≤ 2
  framesMaxSz : Nat
  framesTotalSz : Nat

namespace H2Builder

def initial : H2Builder where
  strBuf := List.replicate FRAMES_STR_BUF_SIZE 0
  strBuf_length := List.length_replicate _ _
  bufPtr := none
  bufCapacity := 0
  frames := []
  cnt_le := Nat.zero_le _
  framesMaxSz := 0
  framesTotalSz := 0

/-- `H2_BUILDER_INIT()`. -/
def init (b : H2Builder) : H2Builder :=
  { b with frames := [], cnt_le := Nat.zero_le _, framesTotalSz := 0, framesMaxSz := 0 }

/-- `H2_BUILDER_SET_BUF(frames_str_buf)`. -/
def setBuf (b : H2Builder) : Except HarnessStop H2Builder :=
  if b.bufPtr.isSome then .error .bug
  else .ok { b with
    strBuf := List.replicate FRAMES_STR_BUF_SIZE 0
    strBuf_length := List.length_replicate _ _
    bufPtr := some 0
    bufCapacity := FRAMES_STR_BUF_SIZE }

/-- `H2_BUILDER_RESET_BUF()`. -/
def resetBuf (b : H2Builder) : Except HarnessStop H2Builder :=
  if b.bufPtr.isNone then .error .bug else .ok { b with bufPtr := none, bufCapacity := 0 }

/-- `memcpy_fast(frames_buf_ptr, src, n); frames_buf_ptr += n;` -/
def copy (b : H2Builder) (src : List UInt8) : Except HarnessStop H2Builder :=
  match b.bufPtr with
  | none => .error .outOfRange
  | some ptr =>
    if fits : ptr + src.length ≤ FRAMES_STR_BUF_SIZE then
      .ok { b with
        strBuf := b.strBuf.take ptr ++ src ++ b.strBuf.drop (ptr + src.length)
        strBuf_length := by
          simp only [List.length_append, List.length_take, List.length_drop, b.strBuf_length]
          omega
        bufPtr := some (ptr + src.length) }
    else .error .outOfRange

/-- `BUG_ON(frames_buf_ptr > frames_str_buf + frames_buf_capacity)`. -/
def checkPtr (b : H2Builder) : Except HarnessStop H2Builder :=
  if b.bufCapacity < b.bufPtr.getD 0 then .error .bug else .ok b

/-- `BUG_ON(frames_cnt >= ARRAY_SIZE(frames))` of `HEADERS_FRAME_BEGIN` and
`DATA_FRAME_BEGIN`. -/
def checkCnt (b : H2Builder) : Except HarnessStop H2Builder :=
  if b.frames.length < 2 then .ok b else .error .bug

/-- `HEADERS_FRAME_END` and `DATA_FRAME_END`: the `frame_sz` bytes before the pointer become
the next record. -/
def frameEnd (b : H2Builder) (subtype : TfwFrameType) (frameSz : Nat) :
    Except HarnessStop H2Builder :=
  if room : b.frames.length < 2 then
    .ok { b with
      frames := b.frames ++ [⟨frameSz, b.bufPtr.getD 0 - frameSz, subtype⟩]
      cnt_le := by
        simp only [List.length_append, List.length_singleton]
        omega
      framesTotalSz := b.framesTotalSz + frameSz
      framesMaxSz := max b.framesMaxSz frameSz }
  else .error .bug

section Steps
variable (writeInt : Nat → List UInt8)

/-- `tfw_h2_encode_data`; `writeInt n` is `hpint.buf[0 .. hpint.sz)` after
`write_int(n, 0x7F, 0, &hpint)`. -/
def tfwH2EncodeData (b : H2Builder) (data : TfwDataRec) :
    Except HarnessStop (H2Builder × Nat) := do
  let hpint := writeInt data.size
  let b ← b.copy hpint
  let b ← b.copy data.buf
  return (b, hpint.length + data.size)

def tfwH2EncodeHeader (b : H2Builder) (header : TfwHeaderRec) :
    Except HarnessStop (H2Builder × Nat) := do
  let b ← b.copy [LIT_HDR_FLD_WO_IND]
  let (b, nameSz) ← tfwH2EncodeData writeInt b header.name
  let (b, valueSz) ← tfwH2EncodeData writeInt b header.value
  return (b, 1 + nameSz + valueSz)

/-- `HEADER(name, value)` in a frame of `frameSz` bytes so far. -/
def header (b : H2Builder) (frameSz : Nat) (temp : TfwHeaderRec) :
    Except HarnessStop (H2Builder × Nat) := do
  let (b, headerSz) ← tfwH2EncodeHeader writeInt b temp
  let b ← b.checkPtr
  return (b, frameSz + headerSz)

/-- `DATA(data_rec)` in a frame of `frameSz` bytes so far. -/
def data (b : H2Builder) (frameSz : Nat) (dataRec : TfwDataRec) :
    Except HarnessStop (H2Builder × Nat) := do
  let b ← b.copy dataRec.buf
  let b ← b.checkPtr
  return (b, frameSz + dataRec.size)

def frameSteps {α : Type} (step : H2Builder → Nat → α → Except HarnessStop (H2Builder × Nat)) :
    List α → H2Builder → Nat → Except HarnessStop (H2Builder × Nat)
  | [], b, frameSz => .ok (b, frameSz)
  | x :: rest, b, frameSz => do
    let (b, frameSz) ← step b frameSz x
    frameSteps step rest b frameSz

end Steps

end H2Builder

/-- One frame of a `FOR_REQ_H2` block: `HEADERS_FRAME_BEGIN()`, `HEADER`s and
`HEADERS_FRAME_END()`, or the same with `DATA`. -/
inductive FrameSpec where
  | headers (fields : List TfwHeaderRec)
  | data (recs : List TfwDataRec)
  deriving DecidableEq, Repr

def FrameSpec.subtype : FrameSpec → TfwFrameType
  | .headers _ => .headers
  | .data _ => .data

section Block
variable (writeInt : Nat → List UInt8)

def runFrame (b : H2Builder) : FrameSpec → Except HarnessStop H2Builder
  | .headers fields => do
    let b ← b.checkCnt
    let (b, frameSz) ← H2Builder.frameSteps (H2Builder.header writeInt) fields b 0
    b.frameEnd .headers frameSz
  | .data recs => do
    let b ← b.checkCnt
    let (b, frameSz) ← H2Builder.frameSteps H2Builder.data recs b 0
    b.frameEnd .data frameSz

def runFrames : List FrameSpec → H2Builder → Except HarnessStop H2Builder
  | [], b => .ok b
  | spec :: rest, b => do
    let b ← runFrame writeInt b spec
    runFrames rest b

/-- `H2_BUILDER_INIT(); H2_BUILDER_SET_BUF(frames_str_buf);` and the block of `FOR_REQ_H2`. -/
def h2Build (specs : List FrameSpec) (b : H2Builder) : Except HarnessStop H2Builder := do
  let b ← b.init.setBuf
  runFrames writeInt specs b

/-! ## What the frames should hold -/

/-- What a `HEADER` should write, not translated from the builder: a literal header field
without indexing, `0x00 . W(|name|) . name . W(|value|) . value`. -/
def literalField (field : TfwHeaderRec) : List UInt8 :=
  LIT_HDR_FLD_WO_IND ::
    (writeInt field.name.size ++ field.name.buf ++ (writeInt field.value.size ++ field.value.buf))

def FrameSpec.bytes : FrameSpec → List UInt8
  | .headers fields => fields.flatMap (literalField writeInt)
  | .data recs => recs.flatMap TfwDataRec.buf

def blockBytes (specs : List FrameSpec) : List UInt8 :=
  specs.flatMap (FrameSpec.bytes writeInt)

def layoutFrom : Nat → List FrameSpec → List BuiltFrame
  | _, [] => []
  | start, spec :: rest =>
    ⟨(spec.bytes writeInt).length, start, spec.subtype⟩ ::
      layoutFrom (start + (spec.bytes writeInt).length) rest

end Block

/-- `write_int(index, max, mask, &hpint)` of `hpack.c`, a file outside this one, as its
callers here need it: an HPACK integer with the prefix `max`: `index` itself below `max`, else
`max` and seven bits per octet, low bits first, bit 7 set on every octet but the last. -/
def hpackInt (max mask index : Nat) : List UInt8 :=
  if index < max then [(index ||| mask).toUInt8]
  else (max ||| mask).toUInt8 :: continuation (index - max)
where
  continuation (m : Nat) : List UInt8 :=
    if m < 0x80 then [m.toUInt8] else (m % 0x80 + 0x80).toUInt8 :: continuation (m / 0x80)
  termination_by m
  decreasing_by omega

/-! ## Each step, once -/

@[simp] theorem ok_bind {ε α β : Type} (a : α) (f : α → Except ε β) :
    (Except.ok a >>= f) = f a := rfl

@[simp] theorem error_bind {ε α β : Type} (e : ε) (f : α → Except ε β) :
    (Except.error e >>= f) = Except.error e := rfl

namespace H2Builder

structure Cursor (b : H2Builder) (w : List UInt8) : Prop where
  ptr : b.bufPtr = some w.length
  written : b.strBuf.take w.length = w
  capacity : b.bufCapacity = FRAMES_STR_BUF_SIZE

structure SameTable (b b' : H2Builder) : Prop where
  frames : b'.frames = b.frames
  framesMaxSz : b'.framesMaxSz = b.framesMaxSz
  framesTotalSz : b'.framesTotalSz = b.framesTotalSz

theorem SameTable.refl (b : H2Builder) : SameTable b b := ⟨rfl, rfl, rfl⟩

theorem SameTable.trans {b b' b'' : H2Builder} (first : SameTable b b')
    (second : SameTable b' b'') : SameTable b b'' :=
  ⟨second.frames.trans first.frames, second.framesMaxSz.trans first.framesMaxSz,
    second.framesTotalSz.trans first.framesTotalSz⟩

/-- What a step that should write `bytes` does from a cursor after `w`: when they fit, it
writes them, leaves the pointer after them, returns `base + |bytes|` and keeps the records;
otherwise it stops at an out-of-range write. -/
def Emits (w bytes : List UInt8) (base : Nat) (b : H2Builder)
    (result : Except HarnessStop (H2Builder × Nat)) : Prop :=
  (w.length + bytes.length ≤ FRAMES_STR_BUF_SIZE ∧
    ∃ b', result = .ok (b', base + bytes.length) ∧ b'.Cursor (w ++ bytes) ∧ SameTable b b') ∨
  (FRAMES_STR_BUF_SIZE < w.length + bytes.length ∧ result = .error .outOfRange)

section Cursor
variable {b : H2Builder} {w : List UInt8}

theorem Cursor.length_le (cursor : b.Cursor w) : w.length ≤ FRAMES_STR_BUF_SIZE := by
  have taken := congrArg List.length cursor.written
  rw [List.length_take, b.strBuf_length] at taken
  omega

theorem copy_cases (cursor : b.Cursor w) (src : List UInt8) :
    (w.length + src.length ≤ FRAMES_STR_BUF_SIZE ∧
      ∃ b', b.copy src = .ok b' ∧ b'.Cursor (w ++ src) ∧ SameTable b b') ∨
    (FRAMES_STR_BUF_SIZE < w.length + src.length ∧ b.copy src = .error .outOfRange) := by
  by_cases fits : w.length + src.length ≤ FRAMES_STR_BUF_SIZE
  · refine .inl ⟨fits, ?_⟩
    rw [copy, cursor.ptr]
    dsimp only
    rw [dif_pos fits]
    refine ⟨_, rfl, ⟨by simp, ?_, cursor.capacity⟩, ⟨rfl, rfl, rfl⟩⟩
    dsimp only
    rw [cursor.written, List.take_left' rfl]
  · refine .inr ⟨by omega, ?_⟩
    rw [copy, cursor.ptr]
    dsimp only
    rw [dif_neg fits]

theorem checkPtr_of_cursor (cursor : b.Cursor w) : b.checkPtr = .ok b := by
  rw [checkPtr, cursor.ptr, cursor.capacity, Option.getD_some,
    if_neg (Nat.not_lt.mpr cursor.length_le)]

variable (writeInt : Nat → List UInt8)

theorem tfwH2EncodeData_emits (cursor : b.Cursor w) (data : TfwDataRec) :
    Emits w (writeInt data.size ++ data.buf) 0 b (tfwH2EncodeData writeInt b data) := by
  rcases copy_cases cursor (writeInt data.size) with ⟨-, b1, copied, cursor1, same1⟩ | ⟨over, copied⟩
  · rcases copy_cases cursor1 data.buf with ⟨fits, b2, copied2, cursor2, same2⟩ | ⟨over, copied2⟩
    · refine .inl ⟨by simpa [Nat.add_assoc] using fits, b2, ?_, by simpa using cursor2,
        same1.trans same2⟩
      simp only [tfwH2EncodeData, copied, copied2, ok_bind, List.length_append, Nat.zero_add]
      rfl
    · exact .inr ⟨by simpa [Nat.add_assoc] using over, by simp [tfwH2EncodeData, copied, copied2]⟩
  · exact .inr ⟨by simp only [List.length_append]; omega, by simp [tfwH2EncodeData, copied]⟩

theorem tfwH2EncodeHeader_emits (cursor : b.Cursor w) (field : TfwHeaderRec) :
    Emits w (literalField writeInt field) 0 b (tfwH2EncodeHeader writeInt b field) := by
  rcases copy_cases cursor [LIT_HDR_FLD_WO_IND] with ⟨-, b1, copied, cursor1, same1⟩ | ⟨over, copied⟩
  · rcases tfwH2EncodeData_emits writeInt cursor1 field.name with
      ⟨-, b2, named, cursor2, same2⟩ | ⟨over, named⟩
    · rcases tfwH2EncodeData_emits writeInt cursor2 field.value with
        ⟨fits, b3, valued, cursor3, same3⟩ | ⟨over, valued⟩
      · refine .inl ⟨by simp [literalField] at fits ⊢; omega, b3, ?_,
          by simpa [literalField] using cursor3, same1.trans (same2.trans same3)⟩
        simp [tfwH2EncodeHeader, copied, named, valued, literalField]
        omega
      · exact .inr ⟨by simp [literalField] at over ⊢; omega,
          by simp [tfwH2EncodeHeader, copied, named, valued]⟩
    · exact .inr ⟨by simp [literalField] at over ⊢; omega,
        by simp [tfwH2EncodeHeader, copied, named]⟩
  · exact .inr ⟨by simp [literalField] at over ⊢; omega, by simp [tfwH2EncodeHeader, copied]⟩

theorem header_emits (cursor : b.Cursor w) (frameSz : Nat) (temp : TfwHeaderRec) :
    Emits w (literalField writeInt temp) frameSz b (header writeInt b frameSz temp) := by
  rcases tfwH2EncodeHeader_emits writeInt cursor temp with
    ⟨fits, b', encoded, cursor', same⟩ | ⟨over, encoded⟩
  · exact .inl ⟨fits, b', by simp [header, encoded, checkPtr_of_cursor cursor'], cursor', same⟩
  · exact .inr ⟨over, by simp [header, encoded]⟩

theorem data_emits (cursor : b.Cursor w) (frameSz : Nat) (dataRec : TfwDataRec) :
    Emits w dataRec.buf frameSz b (data b frameSz dataRec) := by
  rcases copy_cases cursor dataRec.buf with ⟨fits, b', copied, cursor', same⟩ | ⟨over, copied⟩
  · exact .inl ⟨fits, b', by simp [data, copied, checkPtr_of_cursor cursor', TfwDataRec.size],
      cursor', same⟩
  · exact .inr ⟨over, by simp [data, copied]⟩

end Cursor

theorem frameSteps_emits {α : Type}
    (step : H2Builder → Nat → α → Except HarnessStop (H2Builder × Nat)) (enc : α → List UInt8)
    (stepEmits : ∀ b w frameSz x, b.Cursor w → Emits w (enc x) frameSz b (step b frameSz x)) :
    ∀ (xs : List α) {b : H2Builder} {w : List UInt8} (frameSz : Nat), b.Cursor w →
      Emits w (xs.flatMap enc) frameSz b (frameSteps step xs b frameSz)
  | [], b, w, frameSz, cursor =>
      .inl ⟨by simpa using cursor.length_le, b, by simp [frameSteps], by simpa using cursor,
        SameTable.refl b⟩
  | x :: rest, b, w, frameSz, cursor => by
      rcases stepEmits b w frameSz x cursor with ⟨-, b', stepped, cursor', same⟩ | ⟨over, stepped⟩
      · rcases frameSteps_emits step enc stepEmits rest (frameSz + (enc x).length) cursor' with
          ⟨fits, b'', ran, cursor'', same'⟩ | ⟨over, ran⟩
        · refine .inl ⟨by simpa [Nat.add_assoc] using fits, b'', ?_, by simpa using cursor'',
            same.trans same'⟩
          simp [frameSteps, stepped, ran, Nat.add_assoc]
        · exact .inr ⟨by simpa [Nat.add_assoc] using over, by simp [frameSteps, stepped, ran]⟩
      · exact .inr ⟨by simp only [List.flatMap_cons, List.length_append]; omega,
          by simp [frameSteps, stepped]⟩

end H2Builder

/-! ## Frames laid out one after the other -/

theorem slice_of_take_eq {α : Type} {l pre mid post : List α} {n : Nat}
    (taken : l.take n = pre ++ mid ++ post) : (l.drop pre.length).take mid.length = mid := by
  have bound : pre.length + mid.length ≤ n := by
    have lengths := congrArg List.length taken
    simp only [List.length_take, List.length_append] at lengths
    omega
  have front : l.take (pre.length + mid.length) = pre ++ mid := by
    rw [← Nat.min_eq_left bound, ← List.take_take, taken, List.take_left' (by simp)]
  rw [List.take_drop, front, List.drop_left]

section Layout
variable (writeInt : Nat → List UInt8)

@[simp] theorem blockBytes_nil : blockBytes writeInt [] = [] := rfl

@[simp] theorem blockBytes_append (xs ys : List FrameSpec) :
    blockBytes writeInt (xs ++ ys) = blockBytes writeInt xs ++ blockBytes writeInt ys := by
  simp [blockBytes]

@[simp] theorem blockBytes_cons (spec : FrameSpec) (rest : List FrameSpec) :
    blockBytes writeInt (spec :: rest) = spec.bytes writeInt ++ blockBytes writeInt rest := by
  simp [blockBytes]

theorem length_blockBytes_take_le (specs : List FrameSpec) (k : Nat) :
    (blockBytes writeInt (specs.take k)).length ≤ (blockBytes writeInt specs).length := by
  have whole := congrArg (fun l => (blockBytes writeInt l).length) (List.take_append_drop k specs)
  simp only [blockBytes_append, List.length_append] at whole
  omega

@[simp] theorem length_layoutFrom (start : Nat) (specs : List FrameSpec) :
    (layoutFrom writeInt start specs).length = specs.length := by
  induction specs generalizing start with
  | nil => rfl
  | cons spec rest inductionHypothesis => simp [layoutFrom, inductionHypothesis]

theorem layoutFrom_append (start : Nat) (xs ys : List FrameSpec) :
    layoutFrom writeInt start (xs ++ ys) = layoutFrom writeInt start xs ++
      layoutFrom writeInt (start + (blockBytes writeInt xs).length) ys := by
  induction xs generalizing start with
  | nil => simp [layoutFrom]
  | cons spec rest inductionHypothesis =>
      simp [layoutFrom, inductionHypothesis, Nat.add_assoc]

theorem getElem?_layoutFrom (start : Nat) (specs : List FrameSpec) (k : Nat) :
    (layoutFrom writeInt start specs)[k]? = specs[k]?.map fun spec =>
      ⟨(spec.bytes writeInt).length, start + (blockBytes writeInt (specs.take k)).length,
        spec.subtype⟩ := by
  induction specs generalizing start k with
  | nil => rfl
  | cons spec rest inductionHypothesis =>
      cases k with
      | zero => simp [layoutFrom]
      | succ k => simp [layoutFrom, inductionHypothesis, Nat.add_assoc]

theorem sum_len_layoutFrom (start : Nat) (specs : List FrameSpec) :
    ((layoutFrom writeInt start specs).map BuiltFrame.len).sum =
      (blockBytes writeInt specs).length := by
  induction specs generalizing start with
  | nil => rfl
  | cons spec rest inductionHypothesis => simp [layoutFrom, inductionHypothesis]

/-- The builder holds the frames `specs`: its records are their layout from the start of the
buffer, the buffer starts with their bytes, the pointer is just past them, and
`frames_total_sz` and `frames_max_sz` agree. -/
structure Layout (specs : List FrameSpec) (b : H2Builder) : Prop where
  frames : b.frames = layoutFrom writeInt 0 specs
  totalSz : b.framesTotalSz = (blockBytes writeInt specs).length
  maxSz : b.framesMaxSz = (b.frames.map BuiltFrame.len).foldl max 0
  cursor : b.Cursor (blockBytes writeInt specs)

/-- How the frames `specs` end: built as `Layout` says when they are at most two and their
bytes fit in `frames_str_buf`, an out-of-range write when they are at most two and do not fit,
and some stop when there are more.  Irreducible, so that stating it for a concrete block does
not run the block. -/
@[irreducible] def BuildEnds (specs : List FrameSpec) (result : Except HarnessStop H2Builder) : Prop :=
  if specs.length ≤ 2 then
    if (blockBytes writeInt specs).length ≤ FRAMES_STR_BUF_SIZE then
      ∃ b, result = .ok b ∧ Layout writeInt specs b
    else result = .error .outOfRange
  else ∃ e, result = .error e

section Frame
variable {writeInt} {done : List FrameSpec} {b : H2Builder}

theorem Layout.length_le (layout : Layout writeInt done b) : done.length ≤ 2 := by
  have counted := b.cnt_le
  rwa [layout.frames, length_layoutFrom] at counted

theorem Layout.buildEnds (layout : Layout writeInt done b) : BuildEnds writeInt done (.ok b) := by
  rw [BuildEnds, if_pos layout.length_le, if_pos layout.cursor.length_le]
  exact ⟨b, rfl, layout⟩

theorem frameEnd_layout {b' : H2Builder} (layout : Layout writeInt done b)
    (room : done.length < 2) (spec : FrameSpec)
    (cursor : b'.Cursor (blockBytes writeInt done ++ spec.bytes writeInt))
    (same : H2Builder.SameTable b b') :
    ∃ b'', b'.frameEnd spec.subtype (spec.bytes writeInt).length = .ok b'' ∧
      Layout writeInt (done ++ [spec]) b'' := by
  have room' : b'.frames.length < 2 := by rwa [same.frames, layout.frames, length_layoutFrom]
  rw [H2Builder.frameEnd, dif_pos room']
  refine ⟨_, rfl, ?_, ?_, ?_, ?_⟩
  · show b'.frames ++ [⟨_, b'.bufPtr.getD 0 - _, _⟩] = _
    rw [same.frames, layout.frames, layoutFrom_append, cursor.ptr]
    simp [layoutFrom]
  · show b'.framesTotalSz + _ = _
    simp [same.framesTotalSz, layout.totalSz]
  · show max b'.framesMaxSz _ = ((b'.frames ++ [_]).map _).foldl max 0
    simp [same.framesMaxSz, layout.maxSz, same.frames]
  · rw [blockBytes_append, blockBytes_cons, blockBytes_nil, List.append_nil]
    exact ⟨cursor.ptr, cursor.written, cursor.capacity⟩

theorem frameEnd_ends (layout : Layout writeInt done b) (room : done.length < 2)
    (spec : FrameSpec) {result : Except HarnessStop (H2Builder × Nat)}
    (emits : H2Builder.Emits (blockBytes writeInt done) (spec.bytes writeInt) 0 b result) :
    BuildEnds writeInt (done ++ [spec])
      (result >>= fun (b, frameSz) => b.frameEnd spec.subtype frameSz) := by
  have few : (done ++ [spec]).length ≤ 2 := by simp only [List.length_append, List.length_singleton]; omega
  rw [BuildEnds, if_pos few]
  rcases emits with ⟨fits, b', ran, cursor, same⟩ | ⟨over, ran⟩
  · obtain ⟨b'', ended, layout'⟩ := frameEnd_layout layout room spec cursor same
    rw [if_pos (by simpa using fits), ran, ok_bind, Nat.zero_add]
    exact ⟨b'', ended, layout'⟩
  · rw [if_neg (by simpa using over), ran, error_bind]

theorem runFrame_ends (layout : Layout writeInt done b) (spec : FrameSpec) :
    BuildEnds writeInt (done ++ [spec]) (runFrame writeInt b spec) := by
  by_cases room : done.length < 2
  · have counted : b.checkCnt = .ok b := by
      rw [H2Builder.checkCnt, layout.frames, length_layoutFrom, if_pos room]
    cases spec with
    | headers fields =>
        rw [runFrame, counted, ok_bind]
        exact frameEnd_ends layout room (.headers fields)
          (H2Builder.frameSteps_emits _ _ (fun _ _ frameSz field cursor =>
            H2Builder.header_emits writeInt cursor frameSz field) fields 0 layout.cursor)
    | data recs =>
        rw [runFrame, counted, ok_bind]
        exact frameEnd_ends layout room (.data recs)
          (H2Builder.frameSteps_emits _ _ (fun _ _ frameSz dataRec cursor =>
            H2Builder.data_emits cursor frameSz dataRec) recs 0 layout.cursor)
  · have counted : b.checkCnt = .error .bug := by
      rw [H2Builder.checkCnt, layout.frames, length_layoutFrom, if_neg room]
    rw [BuildEnds, if_neg (by simp only [List.length_append, List.length_singleton]; omega)]
    cases spec <;> exact ⟨.bug, by simp [runFrame, counted]⟩

end Frame

theorem runFrames_ends : ∀ (specs : List FrameSpec) {done : List FrameSpec} {b : H2Builder},
    Layout writeInt done b → BuildEnds writeInt (done ++ specs) (runFrames writeInt specs b)
  | [], done, b, layout => by simpa using layout.buildEnds
  | spec :: rest, done, b, layout => by
      have first := runFrame_ends layout spec
      rw [BuildEnds] at first
      split_ifs at first with few fits
      · obtain ⟨b', ran, layout'⟩ := first
        rw [runFrames, ran, ok_bind]
        simpa using runFrames_ends rest layout'
      · rw [runFrames, first, error_bind, BuildEnds]
        split_ifs with few' fits'
        · simp only [blockBytes_append, blockBytes_cons, blockBytes_nil, List.append_nil,
            List.length_append] at fits fits'
          omega
        · rfl
        · exact ⟨_, rfl⟩
      · obtain ⟨e, ran⟩ := first
        rw [runFrames, ran, error_bind, BuildEnds,
          if_neg (by simp only [List.length_append, List.length_cons, List.length_nil] at few ⊢; omega)]
        exact ⟨e, rfl⟩

theorem setBuf_init_layout {b0 : H2Builder} (idle : b0.bufPtr = none) :
    ∃ b, b0.init.setBuf = .ok b ∧ Layout writeInt [] b := by
  rw [H2Builder.setBuf, if_neg (by simp [H2Builder.init, idle])]
  exact ⟨_, rfl, rfl, rfl, rfl, rfl, rfl, rfl⟩

theorem h2Build_of_busy (specs : List FrameSpec) {b0 : H2Builder} (busy : b0.bufPtr.isSome) :
    h2Build writeInt specs b0 = .error .bug := by
  simp [h2Build, H2Builder.setBuf, H2Builder.init, busy]

theorem h2Build_ends (specs : List FrameSpec) (b0 : H2Builder) (idle : b0.bufPtr = none) :
    BuildEnds writeInt specs (h2Build writeInt specs b0) := by
  obtain ⟨b, set, layout⟩ := setBuf_init_layout writeInt idle
  rw [h2Build, set, ok_bind]
  simpa only [List.nil_append] using runFrames_ends writeInt specs layout

theorem layout_of_built {specs : List FrameSpec} {b0 b : H2Builder}
    (built : h2Build writeInt specs b0 = .ok b) : Layout writeInt specs b := by
  cases idle : b0.bufPtr with
  | some ptr =>
      rw [h2Build_of_busy writeInt specs (by simp [idle])] at built
      cases built
  | none =>
      have ends := h2Build_ends writeInt specs b0 idle
      rw [built, BuildEnds] at ends
      split_ifs at ends
      · obtain ⟨b', same, layout⟩ := ends
        cases same
        exact layout
      · simp at ends

end Layout

/-! ## What a built block holds -/

section Built
variable {writeInt : Nat → List UInt8} {specs : List FrameSpec} {b : H2Builder}

theorem Layout.frame_at (layout : Layout writeInt specs b) {k : Nat} {f : BuiltFrame}
    (found : b.frames[k]? = some f) :
    ∃ spec, specs[k]? = some spec ∧ f = ⟨(spec.bytes writeInt).length,
      (blockBytes writeInt (specs.take k)).length, spec.subtype⟩ := by
  rw [layout.frames, getElem?_layoutFrom, Nat.zero_add] at found
  obtain ⟨spec, present, rfl⟩ := Option.map_eq_some'.mp found
  exact ⟨spec, present, rfl⟩

theorem Layout.str_succ (layout : Layout writeInt specs b) {k : Nat} {f g : BuiltFrame}
    (found : b.frames[k]? = some f) (next : b.frames[k + 1]? = some g) :
    g.str = f.str + f.len := by
  obtain ⟨spec, present, rfl⟩ := layout.frame_at found
  obtain ⟨spec', -, rfl⟩ := layout.frame_at next
  simp [List.take_succ, present]

theorem Layout.slice_le (layout : Layout writeInt specs b) {f : BuiltFrame}
    (member : f ∈ b.frames) : f.str + f.len ≤ FRAMES_STR_BUF_SIZE := by
  obtain ⟨k, found⟩ := List.mem_iff_getElem?.mp member
  obtain ⟨spec, present, rfl⟩ := layout.frame_at found
  calc (blockBytes writeInt (specs.take k)).length + (spec.bytes writeInt).length
      = (blockBytes writeInt (specs.take (k + 1))).length := by simp [List.take_succ, present]
    _ ≤ (blockBytes writeInt specs).length := length_blockBytes_take_le writeInt specs (k + 1)
    _ ≤ FRAMES_STR_BUF_SIZE := layout.cursor.length_le

theorem Layout.frame_bytes (layout : Layout writeInt specs b) {k : Nat} {f : BuiltFrame}
    {spec : FrameSpec} (found : b.frames[k]? = some f) (present : specs[k]? = some spec) :
    f.subtype = spec.subtype ∧ (b.strBuf.drop f.str).take f.len = spec.bytes writeInt := by
  obtain ⟨spec', present', rfl⟩ := layout.frame_at found
  rw [present, Option.some.injEq] at present'
  subst present'
  have split : blockBytes writeInt specs = blockBytes writeInt (specs.take k) ++
      spec.bytes writeInt ++ blockBytes writeInt (specs.drop (k + 1)) := by
    have whole := congrArg (blockBytes writeInt) (List.take_append_drop (k + 1) specs)
    rw [blockBytes_append, List.take_succ, present] at whole
    simpa using whole.symm
  exact ⟨rfl, slice_of_take_eq (layout.cursor.written.trans split)⟩

end Built

/-- After every block built without a `BUG_ON`: one record per frame, the first at the start of
`frames_str_buf` and each next one right after the one before, all inside the buffer; the
pointer at `frames_total_sz`, the sum of the lengths; `frames_max_sz` their maximum; and each
record's bytes are those of its header fields or data records. -/
theorem h2Build_layout (writeInt : Nat → List UInt8) (specs : List FrameSpec) (b0 b : H2Builder)
    (built : h2Build writeInt specs b0 = .ok b) :
    b.frames.length = specs.length ∧
    (∀ f, b.frames[0]? = some f → f.str = 0) ∧
    (∀ k f g, b.frames[k]? = some f → b.frames[k + 1]? = some g → g.str = f.str + f.len) ∧
    (∀ f ∈ b.frames, f.str + f.len ≤ FRAMES_STR_BUF_SIZE) ∧
    b.bufPtr = some b.framesTotalSz ∧
    b.framesTotalSz = (b.frames.map BuiltFrame.len).sum ∧
    b.framesMaxSz = (b.frames.map BuiltFrame.len).foldl max 0 ∧
    ∀ (k : Nat) (f : BuiltFrame) (spec : FrameSpec), b.frames[k]? = some f → specs[k]? = some spec →
      f.subtype = spec.subtype ∧ (b.strBuf.drop f.str).take f.len = spec.bytes writeInt := by
  have layout := layout_of_built writeInt built
  refine ⟨by rw [layout.frames, length_layoutFrom], fun f found => ?_,
    fun _ _ _ => layout.str_succ, fun _ => layout.slice_le, ?_, ?_, layout.maxSz,
    fun _ _ _ => layout.frame_bytes⟩
  · obtain ⟨spec, -, rfl⟩ := layout.frame_at found
    rfl
  · rw [layout.cursor.ptr, layout.totalSz]
  · rw [layout.totalSz, layout.frames, sum_len_layoutFrom]

def methodGetBlock : List FrameSpec :=
  [.headers [⟨⟨[58, 109, 101, 116, 104, 111, 100]⟩, ⟨[71, 69, 84]⟩⟩], .data [⟨[97, 98, 99]⟩]]

theorem method_get_block_layout :
    ∃ b, h2Build (hpackInt 0x7F 0) methodGetBlock H2Builder.initial = .ok b ∧
      b.frames.length = 2 ∧ b.bufPtr = some b.framesTotalSz := by
  have ends := h2Build_ends (hpackInt 0x7F 0) methodGetBlock H2Builder.initial rfl
  rw [BuildEnds, if_pos (by decide), if_pos (by decide)] at ends
  obtain ⟨b, built, -⟩ := ends
  have facts := h2Build_layout (hpackInt 0x7F 0) methodGetBlock H2Builder.initial b built
  exact ⟨b, built, facts.1, facts.2.2.2.2.1⟩

/-- One `DATA` frame whose record is 4096 bytes long, more than `frames_str_buf` holds. -/
def oversizedDataBlock : List FrameSpec := [.data [⟨List.replicate 4096 0⟩]]

/-- `DATA` copies the record at `frames_buf_ptr` before its `BUG_ON` looks at the pointer, so
the block is written past `frames_str_buf`. -/
theorem oversized_data_record_written_past_buffer (writeInt : Nat → List UInt8) :
    h2Build writeInt oversizedDataBlock H2Builder.initial = .error .outOfRange := by
  have ends := h2Build_ends writeInt oversizedDataBlock H2Builder.initial rfl
  have few : oversizedDataBlock.length ≤ 2 := by
    rw [oversizedDataBlock, List.length_singleton]
    decide
  have over : ¬ (blockBytes writeInt oversizedDataBlock).length ≤ FRAMES_STR_BUF_SIZE := by
    simp only [oversizedDataBlock, blockBytes_cons, blockBytes_nil, FrameSpec.bytes,
      List.flatMap_cons, List.flatMap_nil, List.append_nil, List.length_replicate]
    decide
  rwa [BuildEnds, if_pos few, if_neg over] at ends

/-! ## How a block ends, and what the harness reads -/

/-- From an idle builder a block of at most two frames is built exactly when its bytes fit in
`frames_str_buf`; when they do not, a write past the buffer ends it before any `BUG_ON`. -/
theorem h2Build_fits_iff (writeInt : Nat → List UInt8) (specs : List FrameSpec)
    (b0 : H2Builder) (idle : b0.bufPtr = none) (few : specs.length ≤ 2) :
    ((∃ b, h2Build writeInt specs b0 = .ok b) ↔
      (blockBytes writeInt specs).length ≤ FRAMES_STR_BUF_SIZE) ∧
    (FRAMES_STR_BUF_SIZE < (blockBytes writeInt specs).length →
      h2Build writeInt specs b0 = .error .outOfRange) := by
  have ends := h2Build_ends writeInt specs b0 idle
  rw [BuildEnds, if_pos few] at ends
  split_ifs at ends with fits
  · obtain ⟨b, built, -⟩ := ends
    exact ⟨⟨fun _ => fits, fun _ => ⟨b, built⟩⟩, fun over => absurd fits (by omega)⟩
  · refine ⟨⟨fun ⟨b, built⟩ => ?_, fun fits' => absurd fits' fits⟩, fun _ => ends⟩
    rw [ends] at built
    cases built

theorem method_get_block_fits :
    H2Builder.initial.bufPtr = none ∧ methodGetBlock.length ≤ 2 ∧
      ∃ b, h2Build (hpackInt 0x7F 0) methodGetBlock H2Builder.initial = .ok b :=
  ⟨rfl, by decide, (h2Build_fits_iff (hpackInt 0x7F 0) methodGetBlock H2Builder.initial rfl
    (by decide)).1.mpr (by decide)⟩

theorem le_foldl_max : ∀ (l : List Nat) (a : Nat),
    a ≤ l.foldl max a ∧ ∀ x ∈ l, x ≤ l.foldl max a
  | [], a => ⟨le_rfl, by simp⟩
  | y :: l, a => by
      obtain ⟨first, rest⟩ := le_foldl_max l (max a y)
      refine ⟨(le_max_left a y).trans first, fun x member => ?_⟩
      rcases List.mem_cons.mp member with rfl | member
      · exact (le_max_right a x).trans first
      · exact rest x member

def H2Builder.table (b : H2Builder) : FrameTable where
  frames := b.frames.map fun f => ⟨f.len, b.strBuf.drop f.str, f.subtype⟩
  cnt_le := by simpa using b.cnt_le

theorem Layout.table_fits {writeInt : Nat → List UInt8} {specs : List FrameSpec} {b : H2Builder}
    (layout : Layout writeInt specs b) : ∀ f ∈ b.table.frames, f.len ≤ b.framesMaxSz := by
  intro f member
  simp only [H2Builder.table, List.mem_map] at member
  obtain ⟨f', member', rfl⟩ := member
  rw [layout.maxSz]
  exact (le_foldl_max _ 0).2 _ (List.mem_map_of_mem _ member')

theorem foldl_max_le {m : Nat} : ∀ (l : List Nat) {a : Nat}, a ≤ m → (∀ x ∈ l, x ≤ m) →
    l.foldl max a ≤ m
  | [], _, start, _ => start
  | y :: l, _, start, bounded =>
      foldl_max_le l (max_le start (bounded y (List.mem_cons_self y l)))
        fun x member => bounded x (List.mem_cons_of_mem y member)

theorem Layout.maxSz_le {writeInt : Nat → List UInt8} {specs : List FrameSpec} {b : H2Builder}
    (layout : Layout writeInt specs b) : b.framesMaxSz ≤ FRAMES_STR_BUF_SIZE := by
  rw [layout.maxSz]
  refine foldl_max_le _ (Nat.zero_le _) fun x member => ?_
  obtain ⟨f, member', rfl⟩ := List.mem_map.mp member
  exact (Nat.le_add_left _ _).trans (layout.slice_le member')

/-- The table a built block hands to `do_split_and_parse` holds the block's frames, in order,
each no longer than `frames_max_sz`, which is what `doSplitAndParse_feeds` asks of a table. -/
theorem h2Build_table (writeInt : Nat → List UInt8) (specs : List FrameSpec) (b0 b : H2Builder)
    (built : h2Build writeInt specs b0 = .ok b) :
    b.table.frames.map (fun f => (f.str.take f.len, f.subtype)) =
      specs.map (fun spec => (spec.bytes writeInt, spec.subtype)) ∧
    ∀ f ∈ b.table.frames, f.len ≤ b.framesMaxSz := by
  have layout := layout_of_built writeInt built
  refine ⟨List.ext_getElem? fun k => ?_, fun f member => ?_⟩
  · simp only [H2Builder.table, List.map_map, List.getElem?_map]
    cases found : b.frames[k]? with
    | none =>
        have absent : specs[k]? = none := by
          rw [List.getElem?_eq_none_iff] at found ⊢
          rwa [layout.frames, length_layoutFrom] at found
        simp [absent]
    | some f =>
        obtain ⟨spec, present, -⟩ := layout.frame_at found
        obtain ⟨subtypeEq, bytesEq⟩ := layout.frame_bytes found present
        simp [present, subtypeEq, bytesEq]
  · exact layout.table_fits f member

theorem method_get_block_table :
    ∃ b, h2Build (hpackInt 0x7F 0) methodGetBlock H2Builder.initial = .ok b ∧
      ∀ f ∈ b.table.frames, f.len ≤ b.framesMaxSz := by
  have ends := h2Build_ends (hpackInt 0x7F 0) methodGetBlock H2Builder.initial rfl
  rw [BuildEnds, if_pos (by decide), if_pos (by decide)] at ends
  obtain ⟨b, built, -⟩ := ends
  exact ⟨b, built, (h2Build_table (hpackInt 0x7F 0) methodGetBlock H2Builder.initial b built).2⟩

/-! ## One test after another -/

section Tests
variable (writeInt : Nat → List UInt8)

/-- The builder part of `FOR_REQ_H2(H2_BUILDER_BLOCK)`: `H2_BUILDER_INIT`,
`H2_BUILDER_SET_BUF(frames_str_buf)`, the block, `H2_BUILDER_RESET_BUF`. -/
def forReqH2Build (specs : List FrameSpec) (b : H2Builder) : Except HarnessStop H2Builder := do
  let b ← h2Build writeInt specs b
  b.resetBuf

def forReqH2Tests : List (List FrameSpec) → H2Builder → Except HarnessStop H2Builder
  | [], b => .ok b
  | specs :: rest, b => do
    let b ← forReqH2Build writeInt specs b
    forReqH2Tests rest b

theorem forReqH2Build_eq {specs : List FrameSpec} {b0 b : H2Builder}
    (built : h2Build writeInt specs b0 = .ok b) (layout : Layout writeInt specs b) :
    forReqH2Build writeInt specs b0 = .ok { b with bufPtr := none, bufCapacity := 0 } := by
  rw [forReqH2Build, built, ok_bind, H2Builder.resetBuf, layout.cursor.ptr]
  rfl

theorem forReqH2Build_idle (specs : List FrameSpec) {b0 : H2Builder} (idle : b0.bufPtr = none)
    (few : specs.length ≤ 2) (fits : (blockBytes writeInt specs).length ≤ FRAMES_STR_BUF_SIZE) :
    ∃ b, forReqH2Build writeInt specs b0 = .ok b ∧ b.bufPtr = none := by
  have ends := h2Build_ends writeInt specs b0 idle
  rw [BuildEnds, if_pos few, if_pos fits] at ends
  obtain ⟨b, built, layout⟩ := ends
  exact ⟨_, forReqH2Build_eq writeInt built layout, rfl⟩

end Tests

/-- Over a whole run of `FOR_REQ_H2` tests whose blocks have at most two frames that fit,
`H2_BUILDER_SET_BUF` always finds the pointer NULL and `H2_BUILDER_RESET_BUF` never does, so
neither `BUG_ON` fires, and the builder is idle again after the run. -/
theorem forReqH2Tests_idle (writeInt : Nat → List UInt8) :
    ∀ (blocks : List (List FrameSpec)) (b0 : H2Builder), b0.bufPtr = none →
      (∀ specs ∈ blocks, specs.length ≤ 2 ∧
        (blockBytes writeInt specs).length ≤ FRAMES_STR_BUF_SIZE) →
      ∃ b, forReqH2Tests writeInt blocks b0 = .ok b ∧ b.bufPtr = none
  | [], b0, idle, _ => ⟨b0, rfl, idle⟩
  | specs :: rest, b0, idle, fitting => by
      obtain ⟨few, fits⟩ := fitting specs (List.mem_cons_self _ _)
      obtain ⟨b, built, idle'⟩ := forReqH2Build_idle writeInt specs idle few fits
      rw [forReqH2Tests, built, ok_bind]
      exact forReqH2Tests_idle writeInt rest b idle'
        fun specs' member => fitting specs' (List.mem_cons_of_mem _ member)

theorem two_method_get_tests_idle :
    H2Builder.initial.bufPtr = none ∧
      ∃ b, forReqH2Tests (hpackInt 0x7F 0) [methodGetBlock, methodGetBlock] H2Builder.initial =
        .ok b ∧ b.bufPtr = none :=
  ⟨rfl, forReqH2Tests_idle (hpackInt 0x7F 0) [methodGetBlock, methodGetBlock] H2Builder.initial
    rfl (by decide)⟩

end TempestaFw.ParserTest
