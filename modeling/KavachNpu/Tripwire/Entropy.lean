/-
Module: KavachNpu.Tripwire.Entropy
Layer: Tripwire
Purpose: Shannon block entropy and the differential analysis of sparse blocks, over any arithmetic. The
  binary logarithm is a parameter.
Trusted boundary: human-reviewed spec
Main exports: shannonEntropy, blockEntropyScan, SparseEntropySummary, differentialEntropy
-/
import KavachNpu.Foundation.Arithmetic
import KavachNpu.Foundation.Bytes

namespace KavachNpu

/-- `DEFAULT_BLOCK_SIZE`. -/
def defaultBlockSize : Nat := 4096

section Arithmetic

variable {D : Type} [Add D] [Sub D] [Mul D] [Div D] [LE D] [LT D] [DecidableLE D] [DecidableLT D]
  [NatCast D] [OfScientific D] [FloatOps D]

/-- `ENTROPY_MAX`. -/
def entropyMax : D := 8.0

/-- `ENTROPY_RANSOMWARE_THRESHOLD`. -/
def entropyRansomwareThreshold : D := 7.95

/-- `ENTROPY_SUSPICIOUS_THRESHOLD`. -/
def entropySuspiciousThreshold : D := 7.50

/-- The Shannon entropy of a byte slice. -/
def shannonEntropy (log2 : D → D) (bytes : List UInt8) : D :=
  if bytes.isEmpty then
    0.0
  else
    let counts := (List.range 256).map fun symbol => bytes.countP fun byte => byte.toNat == symbol
    let n : D := (bytes.length : D)
    counts.foldl
      (fun entropy (count : Nat) =>
        if count > 0 then
          let p : D := (count : D) / n
          entropy - p * log2 p
        else
          entropy)
      0.0

/-- The entropies of the consecutive blocks of a buffer. -/
def blockEntropyScan (log2 : D → D) (data : List UInt8) (blockSize : Nat) : List D :=
  if data.isEmpty || blockSize == 0 then
    []
  else
    (chunks blockSize data).map (shannonEntropy log2)

/-- Summary metrics of a multi-block analysis. -/
structure SparseEntropySummary (D : Type) where
  totalBlocks : Nat
  meanEntropy : D
  maxEntropy : D
  minEntropy : D
  variance : D
  highEntropyRatio : D
  intermittentEncryptionScore : D
  isAnomalous : Bool

/-- The number of transitions between low and high entropy among adjacent blocks. -/
def deltaTransitions (blocks : List D) : Nat :=
  (blocks.zip blocks.tail).countP fun (first, second) =>
    decide (FloatOps.abs (second - first) ≥ 2.0) &&
      (decide (first ≥ entropySuspiciousThreshold) || decide (second ≥ entropySuspiciousThreshold))

/-- Evaluates differential entropy across sparse blocks. -/
def differentialEntropy (blocks : List D) : SparseEntropySummary D :=
  if blocks.isEmpty then
    { totalBlocks := 0
      meanEntropy := 0.0
      maxEntropy := 0.0
      minEntropy := 0.0
      variance := 0.0
      highEntropyRatio := 0.0
      intermittentEncryptionScore := 0.0
      isAnomalous := false }
  else
    let n : D := (blocks.length : D)
    -- the source updates these four in one loop
    let sum : D := blocks.foldl (· + ·) 0.0
    let maxE : D := blocks.foldl (fun maxE e => if e > maxE then e else maxE) 0.0
    let minE : D := blocks.foldl (fun minE e => if e < minE then e else minE) entropyMax
    let highCount := blocks.countP fun e => decide (e ≥ entropyRansomwareThreshold)
    let mean := sum / n
    let varSum : D := blocks.foldl (fun varSum e => varSum + (e - mean) * (e - mean)) 0.0
    let variance := varSum / n
    let highRatio := (highCount : D) / n
    let transitionRatio : D :=
      if blocks.length > 1 then
        (deltaTransitions blocks : D) / ((blocks.length - 1 : Nat) : D)
      else
        0.0
    let intermittentScore : D :=
      if maxE ≥ entropyRansomwareThreshold ∧ variance ≥ 1.0 then
        clamp (transitionRatio * 0.5 + variance / 8.0 * 0.5) 0.0 1.0
      else
        0.0
    let isAnomalous :=
      decide (highRatio ≥ 0.7) || (decide (highCount ≥ 2) && decide (intermittentScore ≥ 0.35))
    { totalBlocks := blocks.length
      meanEntropy := mean
      maxEntropy := maxE
      minEntropy := minE
      variance := variance
      highEntropyRatio := highRatio
      intermittentEncryptionScore := intermittentScore
      isAnomalous := isAnomalous }

end Arithmetic

end KavachNpu
