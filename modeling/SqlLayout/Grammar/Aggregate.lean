/-!
# Aggregate functions by their exact names

Some dialects tell upper and lower case apart in the names of functions.  There an aggregate
function has one spelling, an ending of its name changes what it gathers, and its parameters have
parentheses of their own before those of its arguments.
-/

namespace SqlLayout.Grammar

/-- The names of the aggregate functions. -/
def aggregateNames : List String :=
  ["count", "min", "max", "sum", "avg", "any", "stddevPop", "stddevSamp", "varPop", "varSamp",
    "corr", "covarPop",
   "covarSamp", "entropy", "exponentialMovingAverage", "intervalLengthSum", "kolmogorovSmirnovTest",
   "mannWhitneyUTest", "median", "rankCorr", "sumKahan", "studentTTest", "welchTTest", "anyHeavy",
   "anyLast", "boundingRatio", "first_value", "last_value", "argMin", "argMax", "avgWeighted",
   "topK", "topKWeighted",
   "deltaSum", "deltaSumTimestamp", "groupArray", "groupArrayLast", "groupUniqArray",
   "groupArrayInsertAt", "groupArrayMovingAvg", "groupArrayMovingSum", "groupArraySample",
   "groupBitAnd", "groupBitOr", "groupBitXor",
   "groupBitmap", "groupBitmapAnd", "groupBitmapOr", "groupBitmapXor", "sumWithOverflow", "sumMap",
   "minMap", "maxMap", "skewSamp", "skewPop", "kurtSamp", "kurtPop", "uniq", "uniqExact",
   "uniqCombined", "uniqCombined64",
   "uniqHLL12", "uniqTheta", "quantile", "quantiles", "quantileExact", "quantilesExact",
   "quantileExactLow", "quantileExactHigh", "quantileExactWeighted", "quantileTiming",
   "quantileTimingWeighted", "quantileDeterministic",
   "quantileTDigest", "quantileTDigestWeighted", "quantileBFloat16", "quantileBFloat16Weighted",
   "simpleLinearRegression", "stochasticLinearRegression", "stochasticLogisticRegression",
   "categoricalInformationValue", "contingency", "cramersV", "cramersVBiasCorrected", "theilsU",
   "maxIntersections", "maxIntersectionsPosition", "meanZTest", "quantileInterpolatedWeighted",
   "quantilesInterpolatedWeighted",
   "quantileGK", "quantilesGK", "sparkBar", "sumCount", "largestTriangleThreeBuckets", "histogram",
   "sequenceMatch", "sequenceCount", "windowFunnel", "retention", "uniqUpTo", "sequenceNextNode",
   "exponentialTimeDecayedAvg"]

/-- The endings that the name of an aggregate function can have. -/
def aggregateEndings : List String :=
  ["If", "Array", "ArrayIf", "Map", "SimpleState", "State", "Merge", "MergeState", "ForEach",
    "Distinct", "OrDefault",
   "OrNull", "Resample", "ArgMin", "ArgMax"]

/-- Whether a name is that of an aggregate function, with or without an ending. -/
def isAggregateName (name : String) : Bool :=
  aggregateNames.any fun base =>
    name == base || aggregateEndings.any fun ending => name == base ++ ending

end SqlLayout.Grammar
