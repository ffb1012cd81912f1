import ShaderBindings.Ascending
import ShaderBindings.Command.Arguments
import ShaderBindings.Command.Folder
import ShaderBindings.Command.Session
import ShaderBindings.Error
import ShaderBindings.Host.Alignment
import ShaderBindings.Host.Layout
import ShaderBindings.Host.Type
import ShaderBindings.Interface.Descriptors
import ShaderBindings.Interface.PushConstants
import ShaderBindings.Interface.Specialization
import ShaderBindings.Interface.VertexInput
import ShaderBindings.Main
import ShaderBindings.Program.Build
import ShaderBindings.Program.Names
import ShaderBindings.Proofs.Host.Addresses
import ShaderBindings.Proofs.Host.Agreement
import ShaderBindings.Proofs.Host.Alignment
import ShaderBindings.Proofs.Host.Declaration
import ShaderBindings.Proofs.Host.Elements
import ShaderBindings.Proofs.Host.Failures
import ShaderBindings.Proofs.Host.Gaps
import ShaderBindings.Proofs.Host.Numbers
import ShaderBindings.Proofs.Host.Parts
import ShaderBindings.Proofs.Host.Resolution
import ShaderBindings.Proofs.Host.Sizes
import ShaderBindings.Proofs.Interface.BlockRanges
import ShaderBindings.Proofs.Interface.DescriptorSets
import ShaderBindings.Proofs.Interface.PushRanges
import ShaderBindings.Proofs.Interface.Specialization
import ShaderBindings.Proofs.Interface.VertexAttributes
import ShaderBindings.Proofs.Interface.VertexInput
import ShaderBindings.Proofs.Program.Identifiers
import ShaderBindings.Proofs.Program.Names
import ShaderBindings.Proofs.Program.Structs
import ShaderBindings.Proofs.Program.Words
import ShaderBindings.Proofs.Sorted
import ShaderBindings.Proofs.Source.Code
import ShaderBindings.Proofs.Source.Fields
import ShaderBindings.Proofs.Source.Items
import ShaderBindings.Proofs.Source.Members
import ShaderBindings.Proofs.Source.Setters
import ShaderBindings.Proofs.Spirv.ByteOrder
import ShaderBindings.Proofs.Spirv.Elements
import ShaderBindings.Proofs.Spirv.Failures
import ShaderBindings.Proofs.Spirv.Moves
import ShaderBindings.Proofs.Spirv.Passing
import ShaderBindings.Proofs.Spirv.Resources
import ShaderBindings.Proofs.Spirv.Sizes
import ShaderBindings.Proofs.Spirv.Structs
import ShaderBindings.Proofs.Struct.Acyclic
import ShaderBindings.Proofs.Struct.Containment
import ShaderBindings.Proofs.Struct.Groups
import ShaderBindings.Proofs.Struct.Naming
import ShaderBindings.Proofs.Struct.Postorder
import ShaderBindings.Proofs.Struct.Reachable
import ShaderBindings.Proofs.Struct.Reading
import ShaderBindings.Proofs.Text.Repeats
import ShaderBindings.Proofs.Text.Spelling
import ShaderBindings.Proofs.Vulkan.DescriptorWriter
import ShaderBindings.Proofs.Vulkan.Packing
import ShaderBindings.Proofs.Vulkan.Pipe
import ShaderBindings.Proofs.Vulkan.PipelineParts
import ShaderBindings.Proofs.Vulkan.Slots
import ShaderBindings.Proofs.Vulkan.Specializer
import ShaderBindings.Search
import ShaderBindings.Shader.Module
import ShaderBindings.Shader.Resource
import ShaderBindings.Shader.Stage
import ShaderBindings.Shader.Type
import ShaderBindings.Source.Components
import ShaderBindings.Source.Descriptors
import ShaderBindings.Source.Memory
import ShaderBindings.Source.Names
import ShaderBindings.Source.Print
import ShaderBindings.Source.Stages
import ShaderBindings.Spirv.Cursor
import ShaderBindings.Spirv.Declarations
import ShaderBindings.Spirv.Enumeration
import ShaderBindings.Spirv.Fault
import ShaderBindings.Spirv.Grammar
import ShaderBindings.Spirv.Instruction
import ShaderBindings.Spirv.Module
import ShaderBindings.Spirv.Opcode
import ShaderBindings.Spirv.ParseError
import ShaderBindings.Spirv.Statement
import ShaderBindings.Struct.Naming
import ShaderBindings.Struct.Reachable
import ShaderBindings.Struct.Signature
import ShaderBindings.Table
import ShaderBindings.Text.Fresh
import ShaderBindings.Text.Glyph
import ShaderBindings.Text.Identifier
import ShaderBindings.Text.Lines
import ShaderBindings.Text.Quoted
import ShaderBindings.Text.UpperCase
import ShaderBindings.Text.Utf8
import ShaderBindings.Vulkan.Binary32
import ShaderBindings.Vulkan.Capacity
import ShaderBindings.Vulkan.DescriptorWriter
import ShaderBindings.Vulkan.Device
import ShaderBindings.Vulkan.Padded
import ShaderBindings.Vulkan.Pipe
import ShaderBindings.Vulkan.PipelineParts
import ShaderBindings.Vulkan.Specializer
import ShaderBindings.Word
