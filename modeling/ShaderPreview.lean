import ShaderPreview.Device.Simulated
import ShaderPreview.Dialogue.Path
import ShaderPreview.Frame.Script
import ShaderPreview.Main
import ShaderPreview.Platform.Simulated
import ShaderPreview.Platform.Trace
import ShaderPreview.Proofs.Text.Searching
import ShaderPreview.Proofs.Text.Spacing
import ShaderPreview.Proofs.Shader.Declarations
import ShaderPreview.Proofs.Shader.NormalForm
import ShaderPreview.Proofs.Dialogue.Contract
import ShaderPreview.Proofs.Device.Ledger
import ShaderPreview.Proofs.Pipeline.Accounting
import ShaderPreview.Proofs.Frame.Conduct
import ShaderPreview.Proofs.Session.Safety
import ShaderPreview.Proofs.Session.Failure
import ShaderPreview.Proofs.Shader.Grammar
import ShaderPreview.Proofs.Shader.Report
import ShaderPreview.Proofs.Frame.Refresh
import ShaderPreview.Proofs.Dialogue.Answered
import ShaderPreview.Proofs.Pipeline.Verdicts
import ShaderPreview.Proofs.Session.Situation
import ShaderPreview.Proofs.Device.Lockstep
import ShaderPreview.Proofs.Pipeline.Lockstep
import ShaderPreview.Proofs.Frame.Lockstep
import ShaderPreview.Proofs.Device.Numbering
import ShaderPreview.Proofs.Session.Lockstep
import ShaderPreview.Proofs.Session.History
import ShaderPreview.Proofs.Shader.Reading
import ShaderPreview.Proofs.Pipeline.Remains
import ShaderPreview.Proofs.Dialogue.Layers
import ShaderPreview.Proofs.Gl.Storage
import ShaderPreview.Proofs.Gl.Plan
import ShaderPreview.Proofs.Gl.Drawing
import ShaderPreview.Proofs.Gl.Ownership
import ShaderPreview.Proofs.Session.Filling
import ShaderPreview.Proofs.Gl.Coverage
import ShaderPreview.Proofs.Session.Thrift
import ShaderPreview.Proofs.Window.Objects
import ShaderPreview.Proofs.Shader.Conservation
import ShaderPreview.Proofs.Dialogue.Confined
import ShaderPreview.Proofs.Session.Parts
import ShaderPreview.Proofs.Session.Rejection
import ShaderPreview.Proofs.Frame.Upkeep
import ShaderPreview.Proofs.Pipeline.Supply
import ShaderPreview.Proofs.Session.Drawing
import ShaderPreview.Proofs.Pipeline.Stacking
import ShaderPreview.Proofs.Frame.Registration
import ShaderPreview.Proofs.Session.Succession
import ShaderPreview.Proofs.Gl.Confinement
import ShaderPreview.Proofs.CommandLine.Upkeep
import ShaderPreview.Proofs.CommandLine.Leaving
import ShaderPreview.Proofs.Dialogue.Stages
import ShaderPreview.Proofs.Window.Loop
import ShaderPreview.Proofs.CommandLine.Reading
import ShaderPreview.Proofs.Dialogue.Implemented
import ShaderPreview.Proofs.Platform.Obliging
import ShaderPreview.Proofs.Gl.Obliging
import ShaderPreview.Proofs.Gl.Driving
import ShaderPreview.Proofs.Pipeline.Driving
import ShaderPreview.Proofs.Frame.Arithmetic
import ShaderPreview.Proofs.Frame.Driving
import ShaderPreview.Proofs.Session.Driving
import ShaderPreview.Proofs.CommandLine.Machine
import ShaderPreview.Proofs.Geometry.Expansion
import ShaderPreview.Proofs.Geometry.HalfEdges
import ShaderPreview.Proofs.Geometry.Orientation
import ShaderPreview.Proofs.Shader.Versions
import ShaderPreview.Proofs.Gl.Compilation
import ShaderPreview.Proofs.Pipeline.Outcome
import ShaderPreview.Proofs.Geometry.Emptiness
import ShaderPreview.Proofs.Frame.Callbacks
import ShaderPreview.Proofs.Frame.RunningTime
import ShaderPreview.Proofs.Frame.Timing
import ShaderPreview.Proofs.Frame.Timeline
import ShaderPreview.Proofs.Text.Casing
import ShaderPreview.Proofs.Shader.Tags
import ShaderPreview.Proofs.Session.Tagging
import ShaderPreview.Proofs.Geometry.Divisors
import ShaderPreview.Proofs.Geometry.Frustum
