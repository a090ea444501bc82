import Chatbot.Engine.ShellRunner

/-!
# Capped process output

The shell runner reads a process's streams in chunks, as the system delivers them, and keeps at
most a given number of bytes of each; the rest is read and dropped so that the process is
never blocked on a full pipe. Whatever the sizes of the chunks, the capture keeps the first
`min limit N` bytes of a stream of `N` bytes and says whether the stream had more than `limit`.

The runner keeps up to its output limit of the output stream and a quarter of that of the
error stream, so the answer of a finished process is its first `maxOutput` output bytes, or on
failure its first `maxOutput / 4` error bytes.

## What is proved

* `Engine.processAnswer_eq`: the answer of a finished process, read off the first bytes of its
  two streams.
* `Engine.capture_keeps_first_bytes`: the capture for every splitting of a stream into chunks,
  and the caps the runner reads the two streams with.
* `Engine.shellRun_without_deadline`: without a deadline the bot's shell runner answers what
  the runner on its own answers.
-/

namespace Chatbot.Engine

open Chatbot.Shell Chatbot.Text

/-- The bytes kept are as many as the stream has, up to the limit. -/
theorem readCapped_length (limit : Nat) (chunks : List (List UInt8)) :
    (readCapped limit chunks).1.length = min limit chunks.flatten.length := by
  rw [readCapped_eq, List.length_take]

/-- Two splittings of one stream are captured alike. -/
theorem readCapped_congr {limit : Nat} {chunks chunks' : List (List UInt8)}
    (h : chunks'.flatten = chunks.flatten) : readCapped limit chunks' = readCapped limit chunks := by
  rw [readCapped_eq, readCapped_eq, h]

/-- A finished process answers with its first `maxOutput` output bytes when it succeeded, and
otherwise with its first `maxOutput / 4` error bytes, or its exit status when those are blank.
Each stream of a finished process is one chunk, so the cap keeps its first bytes. -/
theorem processAnswer_eq (maxOutput : Nat) (pr : ProcessRun) :
    processAnswer maxOutput pr =
      if pr.status = .code 0 then .ok (trimBlankEnd (lossyText (pr.stdout.take maxOutput)))
      else if (trimBlank (lossyText (pr.stderr.take (maxOutput / 4)))).isEmpty then
        .error ("exited with " ++ pr.status.describe)
      else .error (trimBlank (lossyText (pr.stderr.take (maxOutput / 4)))) := by
  simp only [processAnswer, readCapped_eq, List.flatten_cons, List.flatten_nil, List.append_nil]
  split
  · rfl
  · split <;> simp_all

/-- **Capturing a stream in chunks** keeps its first `min limit N` bytes and flags a stream of
more than `limit` bytes, however the stream is split; the runner captures the output stream up
to its output limit and the error stream up to a quarter of it. -/
theorem capture_keeps_first_bytes :
    (∀ (limit : Nat) (chunks : List (List UInt8)),
      (readCapped limit chunks).1 = chunks.flatten.take limit ∧
      (readCapped limit chunks).1.length = min limit chunks.flatten.length ∧
      ((readCapped limit chunks).2 = true ↔ limit < chunks.flatten.length) ∧
      ∀ chunks' : List (List UInt8), chunks'.flatten = chunks.flatten →
        readCapped limit chunks' = readCapped limit chunks) ∧
    ∀ (maxOutput : Nat) (pr : ProcessRun),
      processAnswer maxOutput pr =
        if pr.status = .code 0 then .ok (trimBlankEnd (lossyText (pr.stdout.take maxOutput)))
        else if (trimBlank (lossyText (pr.stderr.take (maxOutput / 4)))).isEmpty then
          .error ("exited with " ++ pr.status.describe)
        else .error (trimBlank (lossyText (pr.stderr.take (maxOutput / 4)))) := by
  refine ⟨fun limit chunks => ⟨?_, readCapped_length limit chunks, ?_,
    fun _ h => readCapped_congr h⟩, processAnswer_eq⟩
  · rw [readCapped_eq]
  · rw [readCapped_eq, decide_eq_true_iff]

/-- The shell runner on its own answers what the bot's shell runner answers without a deadline:
a process still running at its timeout is timed out, and a finished one gives its answer. -/
theorem shellRun_without_deadline (timeout maxOutput : Nat) (line : String) (now : Nat) :
    (shellRun [] timeout maxOutput line now none).1 =
      answerEnd (runnerAnswer timeout maxOutput line) := by
  unfold shellRun runnerAnswer
  cases hd : (runLine [] line maxOutput (maxOutput / 4)).duration with
  | none => simp [hd, answerEnd]
  | some d =>
    by_cases hlate : timeout * 1000 ≤ d
    · simp [hd, hlate, answerEnd]
    · simp [hd, hlate]

end Chatbot.Engine
