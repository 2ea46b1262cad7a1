import TempestaFw.ParserTest.Reads

/-!
# HTTP/1 tests do not depend on the tests before them

`test_case_parse_prepare_http` rewrites `frames[0]`'s bytes and length, `frames_cnt`,
`frames_max_sz`, `frames_total_sz` and `hm_exp_len`, but leaves `frames[0].subtype` as the last
HTTP/2 block set it.  Only an HTTP/2 request reads a frame's subtype (to set the frame context,
to skip an empty `DATA` frame, and to check the method after `HEADERS`).

`runTest_http_isolated`: a `FOR_REQ`, `EXPECT_BLOCK_REQ`, `FOR_RESP` or `EXPECT_BLOCK_RESP` test
on an HTTP/1 string makes the same calls, with the same verdicts and `TEST_FAIL`s, from any
globals: no earlier test of a test case can change what it checks.
`runTest_block_isolated`: so does a `FOR_REQ_H2(block)` or `EXPECT_BLOCK_REQ_H2(block)` test from
any globals whose builder is idle, as the tests leave it: `H2_BUILDER_INIT` and
`H2_BUILDER_SET_BUF` overwrite every field of the builder the block reads.  Only
`FOR_REQ_H2_CHUNK_OFF(str)` and `EXPECT_BLOCK_REQ_H2_CHUNK_OFF(str)` parse what an earlier test
left.
-/

set_option autoImplicit false

namespace TempestaFw.ParserTest

def TfwFrameRec.untyped (f : TfwFrameRec) : TfwFrameRec := { f with subtype := .data }

theorem frameBody_untyped {σ : Type} (p : Parser σ) (codes : TfwCodes) {type : FuzzType}
    (http : type ≠ .reqH2) : BodyBlind p codes type TfwFrameRec.untyped := by
  intro fuel chunkSize frame hm
  simp only [frameBody, frameVerdict, setFrameCtx, http, false_and, if_false]
  rfl

theorem testCaseParsePrepareHttp_untyped (str : List UInt8) (szDiff : UInt64) (g g' : Globals)
    (i : Nat) :
    Harness.mapFrames TfwFrameRec.untyped
        { (testCaseParsePrepareHttp str szDiff g).harness with chunkSizeIndex := i } =
      Harness.mapFrames TfwFrameRec.untyped
        { (testCaseParsePrepareHttp str szDiff g').harness with chunkSizeIndex := i } := by
  obtain ⟨f, rest, split⟩ := g.frames_cons
  obtain ⟨f', rest', split'⟩ := g'.frames_cons
  simp only [Harness.mapFrames, Globals.harness, testCaseParsePrepareHttp, split, split',
    List.modifyHead_cons, List.take_succ_cons, List.take_zero, List.map_cons, List.map_nil,
    TfwFrameRec.untyped]

/-- A test of an HTTP/1 string: a request test of another type than `FUZZ_REQ_H2`, or a
response test. -/
def TestMacro.IsHttp : TestMacro → Prop
  | .forReq _ _ type _ | .expectBlockReq _ type _ => type ≠ .reqH2
  | .forResp .. | .expectBlockResp _ => True
  | .forReqH2 _ | .expectBlockReqH2 _ => False

theorem map_pair_snd {ε α β : Type} (a : α) (run : Except ε β) :
    (run.map (a, ·)).map Prod.snd = run := by
  cases run <;> rfl

section Run
variable {σ : Type} (p : Parser σ) (codes : TfwCodes) (parserFuel : Nat) (rGarbage : Int)
  (writeInt : Nat → List UInt8)

theorem forReqPass_http {type : FuzzType} (http : type ≠ .reqH2) (mode : ChunkMode)
    (str : List UInt8) (szDiff : UInt64) (g g' : Globals) :
    (forReqPass p codes parserFuel rGarbage type mode (testCaseParsePrepareHttp str szDiff g)).map
        Prod.snd =
      (forReqPass p codes parserFuel rGarbage type mode
        (testCaseParsePrepareHttp str szDiff g')).map Prod.snd := by
  simp only [forReqPass, forReqLoop, map_pair_snd]
  exact tryParseLoop_of_mapFrames_eq p codes type _ (frameBody_untyped p codes http) parserFuel
    rGarbage mode (testCaseParsePrepareHttp_untyped str szDiff g g' 0) _ _ _ _

theorem expectBlockPass_http {type : FuzzType} (http : type ≠ .reqH2) (mode : ChunkMode)
    (str : List UInt8) (szDiff : UInt64) (g g' : Globals) :
    (expectBlockPass p codes parserFuel rGarbage type mode
        (testCaseParsePrepareHttp str szDiff g)).map Prod.snd =
      (expectBlockPass p codes parserFuel rGarbage type mode
        (testCaseParsePrepareHttp str szDiff g')).map Prod.snd := by
  simp only [expectBlockPass, expectBlockReqLoop, map_pair_snd]
  exact tryParseLoop_of_mapFrames_eq p codes type _ (frameBody_untyped p codes http) parserFuel
    rGarbage mode (testCaseParsePrepareHttp_untyped str szDiff g g' 0) _ _ _ _

/-- A test of an HTTP/1 string makes the same calls, with the same verdicts and `TEST_FAIL`s, from
any globals: what the tests before it left, `frames[0].subtype` included, does not reach it. -/
theorem runTest_http_isolated (t : TestMacro) (http : t.IsHttp) (g g' : Globals) :
    (runTest p codes parserFuel rGarbage writeInt g t).map Prod.snd =
      (runTest p codes parserFuel rGarbage writeInt g' t).map Prod.snd := by
  cases t with
  | forReq str szDiff type mode =>
      simp only [runTest, testCaseParsePrepare, if_neg http]
      exact forReqPass_http p codes parserFuel rGarbage http mode str szDiff g g'
  | expectBlockReq str type mode =>
      simp only [runTest, testCaseParsePrepare, if_neg http]
      exact expectBlockPass_http p codes parserFuel rGarbage http mode str 0 g g'
  | forResp str szDiff mode =>
      exact forReqPass_http p codes parserFuel rGarbage (by decide) mode str szDiff g g'
  | expectBlockResp str =>
      exact expectBlockPass_http p codes parserFuel rGarbage (by decide) .chunkOn str 0 g g'
  | forReqH2 _ => exact absurd http id
  | expectBlockReqH2 _ => exact absurd http id

end Run

theorem get_request_isolated :
    TestMacro.IsHttp (.forReq [71, 69, 84, 32, 47, 32, 72, 84, 84, 80, 47, 49, 46, 49, 13, 10, 13,
      10] 0 .req .chunkOn) ∧
    (runTest passingParser sampleCodes FRAMES_STR_BUF_SIZE 0 (hpackInt 0x7F 0) (Globals.initial .data)
        (.forReq [71, 69, 84, 32, 47, 32, 72, 84, 84, 80, 47, 49, 46, 49, 13, 10, 13, 10] 0 .req
          .chunkOn)).map Prod.snd =
      (runTest passingParser sampleCodes FRAMES_STR_BUF_SIZE 0 (hpackInt 0x7F 0)
        (Globals.initial .headers) (.forReq [71, 69, 84, 32, 47, 32, 72, 84, 84, 80, 47, 49, 46, 49,
          13, 10, 13, 10] 0 .req .chunkOn)).map Prod.snd :=
  have http : TestMacro.IsHttp (.forReq [71, 69, 84, 32, 47, 32, 72, 84, 84, 80, 47, 49, 46, 49,
      13, 10, 13, 10] 0 .req .chunkOn) := show FuzzType.req ≠ .reqH2 by decide
  ⟨http, runTest_http_isolated passingParser sampleCodes FRAMES_STR_BUF_SIZE 0 (hpackInt 0x7F 0) _
    http _ _⟩

/-! ## Tests with a builder block -/

theorem h2Build_of_idle (writeInt : Nat → List UInt8) (specs : List FrameSpec) {b b' : H2Builder}
    (idle : b.bufPtr = none) (idle' : b'.bufPtr = none) :
    h2Build writeInt specs b = h2Build writeInt specs b' := by
  simp only [h2Build, H2Builder.init, H2Builder.setBuf, idle, idle', Option.isSome_none,
    Bool.false_eq_true, if_false]

theorem Globals.withBlock_harness (g : Globals) (b : H2Builder) :
    (testCaseParsePrepareH2 (g.withBlock b)).harness = ⟨0, b.table, b.framesMaxSz⟩ := by
  have counted : b.table.frames.length = b.frames.length := by simp [H2Builder.table]
  simp only [testCaseParsePrepareH2, Globals.harness, Globals.withBlock, ← counted,
    List.take_left]

theorem Globals.withBlock_hmExpLen (g : Globals) (b : H2Builder) :
    (testCaseParsePrepareH2 (g.withBlock b)).hmExpLen = b.framesTotalSz := rfl

/-- A test with its own builder block. -/
def TestMacro.HasBlock : TestMacro → Prop
  | .forReqH2 _ | .expectBlockReqH2 _ => True
  | _ => False

section Block
variable {σ : Type} (p : Parser σ) (codes : TfwCodes) (parserFuel : Nat) (rGarbage : Int)
  (writeInt : Nat → List UInt8)

/-- A `FOR_REQ_H2(block)` or `EXPECT_BLOCK_REQ_H2(block)` test makes the same calls, with the
same verdicts and `TEST_FAIL`s, from any globals whose builder is idle: nothing an earlier test
left reaches it. -/
theorem runTest_block_isolated (t : TestMacro) (hasBlock : t.HasBlock) {g g' : Globals}
    (idle : g.builder.bufPtr = none) (idle' : g'.builder.bufPtr = none) :
    (runTest p codes parserFuel rGarbage writeInt g t).map Prod.snd =
      (runTest p codes parserFuel rGarbage writeInt g' t).map Prod.snd := by
  cases t with
  | forReq | expectBlockReq | forResp | expectBlockResp => exact absurd hasBlock id
  | forReqH2 block | expectBlockReqH2 block =>
      simp only [runTest, h2BuilderBlock, forReqH2Build, h2Build_of_idle writeInt block idle idle']
      cases h2Build writeInt block g'.builder >>= H2Builder.resetBuf with
      | error e => rfl
      | ok b =>
          simp only [ok_bind, pure, Except.pure, forReqPass, expectBlockPass, map_pair_snd,
            Globals.withBlock_harness, Globals.withBlock_hmExpLen]

end Block

theorem method_get_block_isolated :
    TestMacro.HasBlock (.forReqH2 methodGetBlock) ∧
    (Globals.initial .data).builder.bufPtr = none ∧
    (testCaseParsePrepareHttp [71, 69, 84] 0 (Globals.initial .data)).builder.bufPtr = none ∧
    (runTest passingParser sampleCodes FRAMES_STR_BUF_SIZE 0 (hpackInt 0x7F 0)
        (Globals.initial .data) (.forReqH2 methodGetBlock)).map Prod.snd =
      (runTest passingParser sampleCodes FRAMES_STR_BUF_SIZE 0 (hpackInt 0x7F 0)
        (testCaseParsePrepareHttp [71, 69, 84] 0 (Globals.initial .data))
        (.forReqH2 methodGetBlock)).map Prod.snd :=
  ⟨trivial, rfl, rfl, runTest_block_isolated passingParser sampleCodes FRAMES_STR_BUF_SIZE 0
    (hpackInt 0x7F 0) (.forReqH2 methodGetBlock) trivial rfl rfl⟩

end TempestaFw.ParserTest
