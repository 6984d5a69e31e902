import Scaffold.Project.Template

/-!
# Building

How the server is built and packed.
-/

namespace Scaffold.ProjectText

def dockerfile : Template := [
  .lines [
    "# Build stage",
    "FROM golang:1.21-alpine AS builder",
    "",
    "WORKDIR /app",
    "",
    "# Install dependencies",
    "RUN apk add --no-cache git gcc musl-dev sqlite-dev",
    "",
    "# Copy go mod files",
    "COPY go.mod go.sum ./",
    "RUN go mod download",
    "",
    "# Copy source code",
    "COPY . .",
    "",
    "# Build",
    "RUN CGO_ENABLED=1 GOOS=linux go build -a -installsuffix cgo -o server ./cmd/server",
    "",
    "# Runtime stage",
    "FROM alpine:latest",
    "",
    "RUN apk --no-cache add ca-certificates sqlite-libs",
    "",
    "WORKDIR /root/",
    "",
    "# Copy binary from builder",
    "COPY --from=builder /app/server .",
    "",
    "# Copy .env if exists",
    "COPY .env* ./",
    "",
    "# Expose port",
    "EXPOSE 3000",
    "",
    "CMD [\"./server\"]",
    ""]]

def makefile : Template := [
  .lines [
    "# Makefile for Golang CCTV Backend",
    "",
    ".PHONY: help build run test clean docker-build docker-run deps fmt lint",
    "",
    "help:",
    "\t@echo \"Available commands:\"",
    "\t@echo \"  make build        - Build the application\"",
    "\t@echo \"  make run          - Run the application\"",
    "\t@echo \"  make test         - Run tests\"",
    "\t@echo \"  make clean        - Clean build artifacts\"",
    "\t@echo \"  make docker-build - Build Docker image\"",
    "\t@echo \"  make docker-run   - Run Docker container\"",
    "",
    "build:",
    "\tgo build -o bin/server ./cmd/server",
    "",
    "run:",
    "\tgo run ./cmd/server/main.go",
    "",
    "test:",
    "\tgo test -v ./...",
    "",
    "clean:",
    "\trm -rf bin/",
    "\tgo clean",
    "",
    "docker-build:",
    "\tdocker build -t cctv-backend-go .",
    "",
    "docker-run:",
    "\tdocker run -p 3000:3000 --env-file .env cctv-backend-go",
    "",
    "deps:",
    "\tgo mod download",
    "\tgo mod tidy",
    "",
    "fmt:",
    "\tgo fmt ./...",
    "",
    "lint:",
    "\tgolangci-lint run",
    ""]]

end Scaffold.ProjectText
