/-!
# Enumerations of the binary format

Some operands of an instruction are values of a fixed set, or masks of fixed bits. A reader refuses
every other value.

## Main definitions

* `ShaderBindings.Spirv.Enumeration` - the sets.
* `Enumeration.accepts` - whether a value belongs to a set.
* `ShaderBindings.Spirv.modelName` - the names of the execution models.
-/

set_option autoImplicit false

namespace ShaderBindings.Spirv

/-- The sets of values an operand can be taken from. They are those of the operands that are read
one by one; a set that occurs only in an operation known by its number is not among them. -/
inductive Enumeration where
  | accessQualifier
  | addressingModel
  | builtIn
  | capability
  | decoration
  | dim
  | executionMode
  | executionModel
  | fpFastMathMode
  | fpRoundingMode
  | functionControl
  | functionParameterAttribute
  | imageFormat
  | linkageType
  | memoryAccess
  | memoryModel
  | sourceLanguage
  | storageClass
deriving DecidableEq, Repr

/-- What belongs to a set. In a mask each bit has a meaning of its own, so every combination of
known bits is a value. -/
inductive Domain where
  /-- The values of some ranges, ends included. -/
  | values (ranges : List (Nat × Nat))
  /-- The values that have no bit outside the mask. -/
  | bits (mask : Nat)
deriving DecidableEq, Repr

/-- Whether the value belongs to the set. -/
def Domain.accepts : Domain → Nat → Bool
  | .values ranges, value => ranges.any fun (first, last) => first ≤ value && value ≤ last
  | .bits mask, value => Nat.land value mask == value

namespace Enumeration

/-- The name of the set. -/
def label : Enumeration → String
  | accessQualifier => "AccessQualifier"
  | addressingModel => "AddressingModel"
  | builtIn => "BuiltIn"
  | capability => "Capability"
  | decoration => "Decoration"
  | dim => "Dim"
  | executionMode => "ExecutionMode"
  | executionModel => "ExecutionModel"
  | fpFastMathMode => "FPFastMathMode"
  | fpRoundingMode => "FPRoundingMode"
  | functionControl => "FunctionControl"
  | functionParameterAttribute => "FunctionParameterAttribute"
  | imageFormat => "ImageFormat"
  | linkageType => "LinkageType"
  | memoryAccess => "MemoryAccess"
  | memoryModel => "MemoryModel"
  | sourceLanguage => "SourceLanguage"
  | storageClass => "StorageClass"

/-- The values of the set. -/
def domain : Enumeration → Domain
  | accessQualifier => .values [(0, 2)]
  | addressingModel => .values [(0, 2), (5348, 5348)]
  | builtIn => .values
    [(0, 1), (3, 20), (22, 34), (36, 43), (4416, 4420), (4424, 4426), (4438, 4438), (4440, 4440),
     (4992, 4998), (5014, 5014), (5253, 5253), (5257, 5258), (5261, 5262), (5264, 5264),
     (5274, 5281), (5286, 5287), (5292, 5293), (5319, 5327), (5330, 5333), (5351, 5351)]
  | capability => .values
    [(0, 15), (17, 25), (27, 68), (4423, 4423), (4427, 4427), (4431, 4431), (4433, 4437),
     (4439, 4439), (4441, 4442), (4445, 4445), (4447, 4450), (4464, 4468), (5008, 5010),
     (5013, 5013), (5015, 5015), (5249, 5249), (5251, 5251), (5254, 5255), (5259, 5260),
     (5265, 5266), (5282, 5282), (5284, 5284), (5288, 5288), (5291, 5291), (5297, 5297),
     (5301, 5312), (5340, 5340), (5345, 5347), (5350, 5350), (5357, 5357), (5568, 5570),
     (5579, 5579), (5696, 5698)]
  | decoration => .values
    [(0, 11), (13, 47), (4469, 4470), (4999, 4999), (5248, 5248), (5250, 5250), (5252, 5252),
     (5256, 5256), (5271, 5273), (5285, 5285), (5300, 5300), (5355, 5356), (5634, 5635)]
  | dim => .values [(0, 6)]
  | executionMode => .values
    [(0, 12), (14, 31), (33, 39), (4446, 4446), (4459, 4463), (5027, 5027), (5269, 5270),
     (5289, 5290), (5298, 5298)]
  | executionModel => .values [(0, 6), (5267, 5268), (5313, 5318)]
  | fpFastMathMode => .bits 0x1f
  | fpRoundingMode => .values [(0, 3)]
  | functionControl => .bits 0xf
  | functionParameterAttribute => .values [(0, 7)]
  | imageFormat => .values [(0, 39)]
  | linkageType => .values [(0, 1)]
  | memoryAccess => .bits 0x3f
  | memoryModel => .values [(0, 3)]
  | sourceLanguage => .values [(0, 5)]
  | storageClass => .values [(0, 12), (5328, 5329), (5338, 5339), (5342, 5343), (5349, 5349)]

/-- Whether the value belongs to the set. -/
def accepts (e : Enumeration) (value : Nat) : Bool := e.domain.accepts value

end Enumeration

/-- The execution models with their names. Those of later numbers belong to no stage of a pipeline
here, and their names are all that is known of them. -/
def modelNames : List (Nat × String) :=
  [(0, "Vertex"), (1, "TessellationControl"), (2, "TessellationEvaluation"), (3, "Geometry"),
   (4, "Fragment"), (5, "GLCompute"), (6, "Kernel"), (5267, "TaskNV"), (5268, "MeshNV"),
   (5313, "RayGenerationNV"), (5314, "IntersectionNV"), (5315, "AnyHitNV"),
   (5316, "ClosestHitNV"), (5317, "MissNV"), (5318, "CallableNV")]

/-- The name of an execution model. Every value of the set has a name, so the empty one is never
used. -/
def modelName (model : Nat) : String := (modelNames.lookup model).getD ""

end ShaderBindings.Spirv
