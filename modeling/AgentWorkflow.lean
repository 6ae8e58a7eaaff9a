import AgentWorkflow.Command.Arithmetic
import AgentWorkflow.Command.Output
import AgentWorkflow.Command.Printf
import AgentWorkflow.Command.Programs
import AgentWorkflow.Command.Programs.Bytes
import AgentWorkflow.Command.Programs.Files
import AgentWorkflow.Command.Programs.Lines
import AgentWorkflow.Command.Run
import AgentWorkflow.Command.Script
import AgentWorkflow.Command.Script.Reader
import AgentWorkflow.Command.Script.Token
import AgentWorkflow.Command.Sed
import AgentWorkflow.Command.Sed.Edit
import AgentWorkflow.Command.Sed.Expression
import AgentWorkflow.Command.Shell
import AgentWorkflow.Command.Shell.Basic
import AgentWorkflow.Command.Shell.Builtins
import AgentWorkflow.Command.Shell.Names
import AgentWorkflow.Command.Task
import AgentWorkflow.CommandLine.Arguments
import AgentWorkflow.CommandLine.Manual
import AgentWorkflow.CommandLine.Program
import AgentWorkflow.Condition
import AgentWorkflow.Config
import AgentWorkflow.Console
import AgentWorkflow.Context
import AgentWorkflow.Conversation
import AgentWorkflow.Decimal.Binary64
import AgentWorkflow.Dispatch
import AgentWorkflow.Environment.Assignment
import AgentWorkflow.Environment.Basic
import AgentWorkflow.Environment.File
import AgentWorkflow.Environment.Lines
import AgentWorkflow.Failure
import AgentWorkflow.Files.Disk
import AgentWorkflow.Files.Path
import AgentWorkflow.Http.Client
import AgentWorkflow.Http.Exchange
import AgentWorkflow.Http.Status
import AgentWorkflow.Http.Target
import AgentWorkflow.Json.Basic
import AgentWorkflow.Json.Coercion
import AgentWorkflow.Json.Decode
import AgentWorkflow.Json.Error
import AgentWorkflow.Json.Record
import AgentWorkflow.Json.Source
import AgentWorkflow.Json.Writer
import AgentWorkflow.Main
import AgentWorkflow.Message
import AgentWorkflow.Note
import AgentWorkflow.Pattern.Basic
import AgentWorkflow.Pattern.Match
import AgentWorkflow.Pattern.Reader
import AgentWorkflow.Plugin.Basic
import AgentWorkflow.Plugin.Catalog
import AgentWorkflow.Plugin.Conversation
import AgentWorkflow.Plugin.Lists
import AgentWorkflow.Plugin.Variables
import AgentWorkflow.Project
import AgentWorkflow.Prompt
import AgentWorkflow.Proofs.Address
import AgentWorkflow.Proofs.BranchConditions
import AgentWorkflow.Proofs.BuiltinPlugins
import AgentWorkflow.Proofs.Bystanders
import AgentWorkflow.Proofs.Captures
import AgentWorkflow.Proofs.Collaborators
import AgentWorkflow.Proofs.Confinement
import AgentWorkflow.Proofs.ConversationPlugins
import AgentWorkflow.Proofs.Courses
import AgentWorkflow.Proofs.Decoding
import AgentWorkflow.Proofs.Dialogue
import AgentWorkflow.Proofs.DirectCalls
import AgentWorkflow.Proofs.DisabledNodes
import AgentWorkflow.Proofs.Dispatching
import AgentWorkflow.Proofs.DocumentPaths
import AgentWorkflow.Proofs.DryRun
import AgentWorkflow.Proofs.DryRunSite
import AgentWorkflow.Proofs.Effects
import AgentWorkflow.Proofs.FailFast
import AgentWorkflow.Proofs.FailedWrites
import AgentWorkflow.Proofs.FileLists
import AgentWorkflow.Proofs.FilePaths
import AgentWorkflow.Proofs.Following
import AgentWorkflow.Proofs.IndependentNodes
import AgentWorkflow.Proofs.Interpreter
import AgentWorkflow.Proofs.Jobs
import AgentWorkflow.Proofs.ListTexts
import AgentWorkflow.Proofs.LoopBounds
import AgentWorkflow.Proofs.LoopPasses
import AgentWorkflow.Proofs.Machine
import AgentWorkflow.Proofs.MachineRuns
import AgentWorkflow.Proofs.ManifestTools
import AgentWorkflow.Proofs.MessageCodec
import AgentWorkflow.Proofs.Milestones
import AgentWorkflow.Proofs.ModeChecks
import AgentWorkflow.Proofs.Notices
import AgentWorkflow.Proofs.Overwrites
import AgentWorkflow.Proofs.Parts
import AgentWorkflow.Proofs.PassLimit
import AgentWorkflow.Proofs.Passes
import AgentWorkflow.Proofs.Paths
import AgentWorkflow.Proofs.PatternMatches
import AgentWorkflow.Proofs.Placeholders
import AgentWorkflow.Proofs.PluginNode
import AgentWorkflow.Proofs.ProjectParts
import AgentWorkflow.Proofs.Replacements
import AgentWorkflow.Proofs.Reports
import AgentWorkflow.Proofs.RepositoryRequests
import AgentWorkflow.Proofs.RequestTargets
import AgentWorkflow.Proofs.Requests
import AgentWorkflow.Proofs.Retries
import AgentWorkflow.Proofs.SentNotices
import AgentWorkflow.Proofs.Separators
import AgentWorkflow.Proofs.Sessions
import AgentWorkflow.Proofs.SiteParts
import AgentWorkflow.Proofs.Stages
import AgentWorkflow.Proofs.StandardWorkflow
import AgentWorkflow.Proofs.StaticCheck
import AgentWorkflow.Proofs.Stopping
import AgentWorkflow.Proofs.StoreContents
import AgentWorkflow.Proofs.StoreHistory
import AgentWorkflow.Proofs.Supervision
import AgentWorkflow.Proofs.ToolAssembly
import AgentWorkflow.Proofs.UnreadNotes
import AgentWorkflow.Proofs.VariableNodes
import AgentWorkflow.Proofs.VisitBudget
import AgentWorkflow.Proofs.Walks
import AgentWorkflow.Proofs.WorkflowCodec
import AgentWorkflow.Proofs.WorkflowLoading
import AgentWorkflow.Proofs.WorkflowSchema
import AgentWorkflow.Proofs.WrittenForms
import AgentWorkflow.Rehearsal
import AgentWorkflow.Retry
import AgentWorkflow.Roadmap.File
import AgentWorkflow.Roadmap.Milestone
import AgentWorkflow.Service.Channels
import AgentWorkflow.Service.Completion
import AgentWorkflow.Service.GitHub
import AgentWorkflow.Session
import AgentWorkflow.Site
import AgentWorkflow.Store
import AgentWorkflow.Supervisor.Basic
import AgentWorkflow.Supervisor.Passes
import AgentWorkflow.Table
import AgentWorkflow.Text.Basic
import AgentWorkflow.Text.CharSet
import AgentWorkflow.Text.Quoted
import AgentWorkflow.Text.Unicode.CaseFold
import AgentWorkflow.Text.Unicode.Category
import AgentWorkflow.Text.Unicode.Property
import AgentWorkflow.Text.Unicode.Script
import AgentWorkflow.Text.Utf8
import AgentWorkflow.Texts
import AgentWorkflow.Toml.Basic
import AgentWorkflow.Toml.Reader
import AgentWorkflow.Toml.Scalar
import AgentWorkflow.Toml.Writer
import AgentWorkflow.Tool.Arguments
import AgentWorkflow.Tool.Assembly
import AgentWorkflow.Tool.Catalog
import AgentWorkflow.Tool.Commands
import AgentWorkflow.Tool.Files
import AgentWorkflow.Tool.Hosting
import AgentWorkflow.Tool.Manifest
import AgentWorkflow.Tool.Standard
import AgentWorkflow.Workflow.Basic
import AgentWorkflow.Workflow.Codec
import AgentWorkflow.Workflow.Document
import AgentWorkflow.Workflow.Run
import AgentWorkflow.Workflow.Schema
import AgentWorkflow.Workflow.Standard
import AgentWorkflow.Workflow.Walk
import AgentWorkflow.Yaml.Decode
import AgentWorkflow.Yaml.Node
import AgentWorkflow.Yaml.Scalar
import AgentWorkflow.Yaml.Token
